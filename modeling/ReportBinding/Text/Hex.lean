import ReportBinding.Bytes
import ReportBinding.Text.Quoted
import ReportBinding.Text.Utf8

/-!
# Hexadecimal text

Bytes are written as two lowercase digits each.  Digits of either case are
read.  A refusal names the odd number of digits or else the first byte that is
no digit, with its position in the UTF-8 form of the text.
-/

namespace ReportBinding
namespace Hex

/-- Why a text is no sequence of digit pairs. -/
inductive Fault where
  /-- The number of bytes of the text is odd. -/
  | oddLength
  /-- The byte at a position of the text is no hexadecimal digit. -/
  | notDigit (byte : UInt8) (position : Nat)
deriving DecidableEq, Repr

/-- The wording of a refusal.  A byte that is no digit is shown as the
character with its value as code point. -/
def Fault.message : Fault → String
  | .oddLength => "Odd number of digits"
  | .notDigit byte position =>
      "Invalid character " ++ Text.quoteChar (Char.ofNat byte.toNat) ++
        " at position " ++ toString position

/-- The lowercase digit with a value below sixteen. -/
def digit (value : Nat) : Char :=
  if value < 10 then Char.ofNat (0x30 + value) else Char.ofNat (0x57 + value)

/-- The two digits of a byte. -/
def encodeByte (byte : UInt8) : List Char :=
  [digit (byte.toNat / 16), digit (byte.toNat % 16)]

/-- The digits of a sequence of bytes. -/
def encodeChars (bytes : Bytes) : List Char :=
  bytes.flatMap encodeByte

/-- The hexadecimal text of a sequence of bytes. -/
def encode (bytes : Bytes) : String :=
  String.ofList (encodeChars bytes)

/-- The value of an ASCII digit of either case. -/
def digitValue? (byte : UInt8) : Option Nat :=
  if 0x30 ≤ byte ∧ byte ≤ 0x39 then some (byte.toNat - 0x30)
  else if 0x61 ≤ byte ∧ byte ≤ 0x66 then some (byte.toNat - 0x57)
  else if 0x41 ≤ byte ∧ byte ≤ 0x46 then some (byte.toNat - 0x37)
  else none

/-- Whether a byte is an ASCII hexadecimal digit. -/
def isDigit (byte : UInt8) : Bool :=
  (digitValue? byte).isSome

/-- The value of the digit at a position, or the refusal that it causes. -/
def readDigit (position : Nat) (byte : UInt8) : Except Fault Nat :=
  match digitValue? byte with
  | some value => .ok value
  | none => .error (.notDigit byte position)

/-- Read digit pairs, the first of them at a given position. -/
def decodePairs (position : Nat) : Bytes → Except Fault Bytes
  | high :: low :: rest => do
      let upper ← readDigit position high
      let lower ← readDigit (position + 1) low
      let bytes ← decodePairs (position + 2) rest
      .ok (UInt8.ofNat (upper * 16 + lower) :: bytes)
  | [_] => .error .oddLength
  | [] => .ok []

/-- The bytes that a sequence of ASCII digits spells.  The length is looked at
before any digit. -/
def decodeAscii (digits : Bytes) : Except Fault Bytes :=
  if digits.length % 2 = 0 then decodePairs 0 digits else .error .oddLength

/-- The bytes that a hexadecimal text spells. -/
def decode (text : String) : Except Fault Bytes :=
  decodeAscii (Text.Utf8.encode text)

@[simp] theorem length_encodeChars (bytes : Bytes) :
    (encodeChars bytes).length = 2 * bytes.length := by
  induction bytes with
  | nil => rfl
  | cons byte bytes inductionHypothesis =>
      simp only [encodeChars, List.flatMap_cons, List.length_append,
        List.length_cons] at inductionHypothesis ⊢
      simp only [encodeByte, List.length_cons, List.length_nil]
      omega

end Hex
end ReportBinding
