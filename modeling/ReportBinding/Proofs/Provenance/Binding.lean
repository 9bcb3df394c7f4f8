import ReportBinding.Proofs.Text.Hex
import ReportBinding.Provenance.Binding

/-!
# What report data is bound to

A bound string tells its three values apart: both digests have a fixed number
of digits, so the revision may have either of its lengths.  Report data hence
belongs to one provenance only, unless two bound strings collide under SHA-512,
and to one content of each file, unless two contents collide under SHA-256.
-/

namespace ReportBinding

/-- Two different values that a digest does not tell apart. -/
def Collides {α : Type} (digest : α → Bytes) (first second : α) : Prop :=
  first ≠ second ∧ digest first = digest second

theorem eq_or_collides {α : Type} (digest : α → Bytes) {first second : α}
    (equal : digest first = digest second) :
    first = second ∨ Collides digest first second := by
  by_cases same : first = second
  · exact Or.inl same
  · exact Or.inr ⟨same, equal⟩

namespace FileDigest

theorem length_toHex (digest : FileDigest) :
    digest.toHex.toList.length = 64 := by
  rw [toHex, Hex.toList_encode, Hex.length_encodeChars, digest.length_bytes]

theorem toHex_injective : Function.Injective toHex := by
  intro first second equal
  exact FileDigest.ext (Hex.encode_injective equal)

end FileDigest

namespace ReportData

theorem length_toHex (reportData : ReportData) :
    reportData.toHex.toList.length = 128 := by
  rw [toHex, Hex.toList_encode, Hex.length_encodeChars,
    reportData.length_bytes]

end ReportData

namespace Provenance

/-- The SHA-512 digest of a text. -/
def textDigest (text : String) : Bytes :=
  Hash.sha512 (Text.Utf8.encode text)

/-- The bytes of report data are the digest of the bound string. -/
@[simp] theorem bytes_reportData (provenance : Provenance) :
    provenance.reportData.bytes = textDigest provenance.boundString := rfl

/-- The characters of a bound string, value by value. -/
theorem toList_boundString (provenance : Provenance) :
    provenance.boundString.toList =
      provenance.toolchain.toHex.toList ++ (delimiter.toList ++
        (provenance.proof.toHex.toList ++ (delimiter.toList ++
          provenance.revision.text.toList))) := by
  simp [boundString]

/-- A bound string belongs to one provenance only. -/
theorem boundString_injective : Function.Injective boundString := by
  intro first second equal
  have characters := congrArg String.toList equal
  rw [toList_boundString, toList_boundString] at characters
  obtain ⟨toolchain, behindToolchain⟩ := List.append_inj characters
    (by rw [FileDigest.length_toHex, FileDigest.length_toHex])
  have fromProof := List.append_cancel_left behindToolchain
  obtain ⟨proof, behindProof⟩ := List.append_inj fromProof
    (by rw [FileDigest.length_toHex, FileDigest.length_toHex])
  have revision := List.append_cancel_left behindProof
  apply Provenance.ext
  · exact FileDigest.toHex_injective (String.toList_injective toolchain)
  · exact FileDigest.toHex_injective (String.toList_injective proof)
  · exact RevisionId.ext (String.toList_injective revision)

/-- Report data belongs to one provenance, unless two bound strings collide. -/
theorem eq_or_collides_of_reportData {first second : Provenance}
    (equal : first.reportData = second.reportData) :
    first = second ∨
      Collides textDigest first.boundString second.boundString := by
  have digests := congrArg ReportData.bytes equal
  rw [bytes_reportData, bytes_reportData] at digests
  rcases eq_or_collides textDigest digests with same | collision
  · exact Or.inl (boundString_injective same)
  · exact Or.inr collision

end Provenance

/-- What a provenance is made of: the contents of both files and the
revision. -/
@[ext] structure Material where
  toolchain : Bytes
  proof : Bytes
  revision : RevisionId
deriving DecidableEq

namespace Material

/-- The provenance of the contents and the revision. -/
def provenance (material : Material) : Provenance :=
  ⟨.ofContent material.toolchain, .ofContent material.proof,
    material.revision⟩

/-- The text that is digested into report data, spelled out. -/
def boundString (material : Material) : String :=
  Hex.encode (Hash.sha256 material.toolchain) ++ "||" ++
    Hex.encode (Hash.sha256 material.proof) ++ "||" ++
      material.revision.text

/-- The bound string of the provenance is the one spelled out. -/
@[simp] theorem boundString_provenance (material : Material) :
    material.provenance.boundString = material.boundString := rfl

/-- Two materials collide if the contents of a file do under SHA-256, or the
bound strings under SHA-512. -/
def Collide (first second : Material) : Prop :=
  Collides Hash.sha256 first.toolchain second.toolchain ∨
    Collides Hash.sha256 first.proof second.proof ∨
      Collides Provenance.textDigest first.boundString second.boundString

/-- Materials of one provenance are equal or collide. -/
theorem eq_or_collide_of_provenance {first second : Material}
    (equal : first.provenance = second.provenance) :
    first = second ∨ first.Collide second := by
  have toolchains := congrArg (fun provenance : Provenance =>
    provenance.toolchain.bytes) equal
  have proofs := congrArg (fun provenance : Provenance =>
    provenance.proof.bytes) equal
  have revisions : first.revision = second.revision :=
    congrArg Provenance.revision equal
  rcases eq_or_collides Hash.sha256 toolchains with sameToolchain | collision
  · rcases eq_or_collides Hash.sha256 proofs with sameProof | collision
    · exact Or.inl (Material.ext sameToolchain sameProof revisions)
    · exact Or.inr (Or.inr (Or.inl collision))
  · exact Or.inr (Or.inl collision)

/-- Materials bound to the same report data are equal or collide. -/
theorem eq_or_collide_of_reportData {first second : Material}
    (equal : first.provenance.reportData = second.provenance.reportData) :
    first = second ∨ first.Collide second := by
  rcases Provenance.eq_or_collides_of_reportData equal with same | collision
  · exact eq_or_collide_of_provenance same
  · exact Or.inr (Or.inr (Or.inr collision))

end Material
end ReportBinding
