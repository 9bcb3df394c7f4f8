import ReportBinding.Provenance.FileDigest
import ReportBinding.Provenance.Input
import ReportBinding.Provenance.ReportData
import ReportBinding.Provenance.RevisionId

/-!
# Binding provenance to report data

A provenance is bound by writing its three values one after the other, with a
delimiter that occurs in none of them, and taking the SHA-512 digest of that
bound string.  Order, delimiter and digest are fixed: a verifier has to rebuild
the same text byte for byte.
-/

namespace ReportBinding

/-- What separates the values in a bound string. -/
def delimiter : String := "||"

/-- The name of the digest that makes report data of a bound string. -/
def reportDataAlgorithm : String := "sha512"

/-- The name of the digest that stands for a file. -/
def fileDigestAlgorithm : String := "sha256"

/-- The three values of a binding. -/
@[ext] structure Provenance where
  toolchain : FileDigest
  proof : FileDigest
  revision : RevisionId
deriving DecidableEq

namespace Provenance

/-- The text that is digested into report data. -/
def boundString (provenance : Provenance) : String :=
  provenance.toolchain.toHex ++ delimiter ++ provenance.proof.toHex ++
    delimiter ++ provenance.revision.text

/-- The report data that the three values are bound to. -/
def reportData (provenance : Provenance) : ReportData :=
  ReportData.ofDigest (Text.Utf8.encode provenance.boundString)

/-- The values of a binding as far as they are known. -/
structure Parts where
  toolchain : Option FileDigest
  proof : Option FileDigest
  revision : Option RevisionId
deriving DecidableEq

namespace Parts

/-- Whether the value of an input is known. -/
def has (parts : Parts) : Input → Bool
  | .toolchain => parts.toolchain.isSome
  | .proof => parts.proof.isSome
  | .revision => parts.revision.isSome

/-- The inputs whose value is unknown, in binding order. -/
def missing (parts : Parts) : List Input :=
  Input.all.filter fun input => !parts.has input

/-- The provenance of the parts, or else the inputs that are missing. -/
def complete : Parts → Except (List Input) Provenance
  | ⟨some toolchain, some proof, some revision⟩ =>
      .ok ⟨toolchain, proof, revision⟩
  | parts => .error parts.missing

end Parts
end Provenance
end ReportBinding
