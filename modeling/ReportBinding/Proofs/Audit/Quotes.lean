import ReportBinding.Audit
import ReportBinding.Proofs.Quote.Extraction
import ReportBinding.Proofs.Text.Blank
import ReportBinding.Proofs.Text.Utf8

/-!
# Quote files

A file with a quote is read as it is, or as hexadecimal digits if there is
nothing else in it.  The bytes of a quote that holds report data are never
taken for digits: `Audit.quoteOfContent_of_extract`.
-/

namespace ReportBinding
namespace Quote

/-- A quote that holds report data begins with the number of its version. -/
theorem begins_of_extract {bytes : Bytes} {attested : ReportData}
    (extracted : extractReportData bytes = .ok attested) :
    ∃ byte rest, bytes = byte :: rest ∧
      (byte.toNat = 4 ∨ byte.toNat = 5) := by
  obtain ⟨version, offset, laidOut, -⟩ :=
    extractReportData_eq_ok_iff.mp extracted
  obtain ⟨rest, isBytes⟩ := laidOut.numbers.version
  rcases laidOut.layout with ⟨rfl, -⟩ | ⟨rfl, -⟩
  · exact ⟨4, 0 :: rest, isBytes.symm, .inl rfl⟩
  · exact ⟨5, 0 :: rest, isBytes.symm, .inr rfl⟩

end Quote

namespace Audit

/-- A text that begins with a control character is no hexadecimal content. -/
theorem hexContent?_eq_none {text : String} {character : Char}
    {characters : List Char} (begins : text.toList = character :: characters)
    (isControl : character = '\x04' ∨ character = '\x05') :
    hexContent? text = none := by
  have notBlank : Text.isBlank character = false := by
    rcases isControl with rfl | rfl <;> decide
  have notDigit : Transcript.isHexDigit character = false := by
    rcases isControl with rfl | rfl <;> decide
  have notZero : character ≠ '0' := by
    rcases isControl with rfl | rfl <;> decide
  obtain ⟨rest, trimmed⟩ := Text.trimmed_cons notBlank characters
  have noMark : Text.dropHexMark (character :: rest) =
      character :: rest := by
    unfold Text.dropHexMark
    split
    · next isMark =>
        injection isMark with isZero
        exact absurd isZero notZero
    · rfl
  unfold hexContent?
  rw [begins, trimmed, noMark]
  simp [notDigit]

/-- A quote that holds report data is read as it is. -/
theorem quoteOfContent_of_extract {bytes : Bytes} {attested : ReportData}
    (extracted : Quote.extractReportData bytes = .ok attested) :
    quoteOfContent bytes = bytes := by
  obtain ⟨byte, rest, rfl, isVersion⟩ := Quote.begins_of_extract extracted
  unfold quoteOfContent
  cases decoded : Text.Utf8.decode? (byte :: rest) with
  | none => rfl
  | some text =>
      have isAscii : byte.toNat < 128 := by omega
      obtain ⟨character, characters, begins, same⟩ :=
        Text.Utf8.toList_of_decode?_cons decoded isAscii
      have isControl : character = '\x04' ∨ character = '\x05' := by
        rw [← Char.ofNat_toNat character, same]
        rcases isVersion with four | five
        · exact .inl (by rw [four])
        · exact .inr (by rw [five])
      rw [Option.bind_some, hexContent?_eq_none begins isControl]

end Audit
end ReportBinding
