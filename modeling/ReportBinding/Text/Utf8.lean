import ReportBinding.Bytes

/-!
# UTF-8

Texts become bytes in one way.  Bytes become a text in two: strictly, where
one ill-formed sequence refuses the whole, and leniently, where each maximal
beginning of an ill-formed sequence turns into one replacement character.
-/

namespace ReportBinding
namespace Text
namespace Utf8

/-- The bytes of a text. -/
def encode (text : String) : Bytes :=
  text.toUTF8.data.toList

/-- The text whose bytes these are, when they are well formed. -/
def decode? (bytes : Bytes) : Option String :=
  String.fromUTF8? ⟨bytes.toArray⟩

/-- The character that stands for an ill-formed sequence. -/
def replacement : Char := '\uFFFD'

/-- A sequence under way: the bits so far, how many bytes are still due, and
the range that the next of them has to lie in. -/
structure Partial where
  bits : Nat
  due : Nat
  low : UInt8
  high : UInt8
deriving DecidableEq, Repr

/-- What a first byte announces, when it can begin a longer sequence. -/
def Partial.begin? (lead : UInt8) : Option Partial :=
  if 0xC2 ≤ lead ∧ lead ≤ 0xDF then
    some ⟨lead.toNat - 0xC0, 1, 0x80, 0xBF⟩
  else if lead = 0xE0 then some ⟨0, 2, 0xA0, 0xBF⟩
  else if lead = 0xED then some ⟨0xD, 2, 0x80, 0x9F⟩
  else if 0xE1 ≤ lead ∧ lead ≤ 0xEF then
    some ⟨lead.toNat - 0xE0, 2, 0x80, 0xBF⟩
  else if lead = 0xF0 then some ⟨0, 3, 0x90, 0xBF⟩
  else if 0xF1 ≤ lead ∧ lead ≤ 0xF3 then
    some ⟨lead.toNat - 0xF0, 3, 0x80, 0xBF⟩
  else if lead = 0xF4 then some ⟨4, 3, 0x80, 0x8F⟩
  else none

/-- The bits of a sequence once a further byte has been added. -/
def Partial.extend (sequence : Partial) (byte : UInt8) : Nat :=
  sequence.bits * 64 + (byte.toNat - 0x80)

/-- Decode leniently, with a sequence possibly under way. -/
def lossyFrom : Option Partial → Bytes → List Char
  | none, [] => []
  | some _, [] => [replacement]
  | none, byte :: rest =>
      if byte < 0x80 then Char.ofNat byte.toNat :: lossyFrom none rest
      else match Partial.begin? byte with
        | some sequence => lossyFrom (some sequence) rest
        | none => replacement :: lossyFrom none rest
  | some sequence, byte :: rest =>
      if sequence.low ≤ byte ∧ byte ≤ sequence.high then
        if sequence.due = 1 then
          Char.ofNat (sequence.extend byte) :: lossyFrom none rest
        else
          lossyFrom
            (some ⟨sequence.extend byte, sequence.due - 1, 0x80, 0xBF⟩) rest
      else
        replacement ::
          (if byte < 0x80 then Char.ofNat byte.toNat :: lossyFrom none rest
          else match Partial.begin? byte with
            | some sequence => lossyFrom (some sequence) rest
            | none => replacement :: lossyFrom none rest)

/-- The text nearest to a sequence of bytes, well formed or not. -/
def lossy (bytes : Bytes) : String :=
  String.ofList (lossyFrom none bytes)

/-- Strict decoding undoes encoding. -/
@[simp] theorem decode?_encode (text : String) :
    decode? (encode text) = some text := by
  have valid : text.toUTF8.IsValidUTF8 := text.isValidUTF8
  have same : decode? (encode text) = String.fromUTF8? text.toUTF8 := by
    simp [decode?, encode]
  rw [same, String.fromUTF8?, dif_pos valid]
  rfl

end Utf8
end Text
end ReportBinding
