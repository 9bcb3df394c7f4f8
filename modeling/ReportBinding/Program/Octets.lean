import ReportBinding.Text.Host

/-!
# Octet text

Command shells treat text as bytes.  A byte is held as the character with its
value, so that scripts can be matched against character literals while every
byte survives.
-/

namespace ReportBinding
namespace Program

/-- Bytes held as the characters with their values. -/
abbrev Octets := List Char

namespace Octets

/-- The characters that stand for bytes. -/
def ofBytes (bytes : Bytes) : Octets :=
  bytes.map fun byte => Char.ofNat byte.toNat

/-- The bytes that the characters stand for. -/
def toBytes (octets : Octets) : Bytes :=
  octets.map fun octet => UInt8.ofNat octet.toNat

/-- The bytes of a text, held as characters. -/
def ofText (text : String) : Octets :=
  ofBytes (Text.Utf8.encode text)

/-- The text nearest to the bytes. -/
def toText (octets : Octets) : String :=
  Text.Utf8.lossy octets.toBytes

/-- The octets of a text of the host. -/
def ofHost (host : HostText) : Octets :=
  ofBytes host.octets

/-- The text of the host that octets make up. -/
def toHost (octets : Octets) : HostText :=
  ⟨octets.toBytes⟩

/-- The decimal value of a sequence of digits. -/
def number? (octets : Octets) : Option Nat :=
  if octets.isEmpty || octets.any fun octet => !octet.isDigit then none
  else some (octets.foldl (fun value octet =>
    value * 10 + (octet.toNat - 0x30)) 0)

/-- Whether an octet is an octal digit. -/
def isOctalDigit (octet : Char) : Bool :=
  0x30 ≤ octet.toNat && octet.toNat ≤ 0x37

/-- The value of a sequence of octal digits, as one byte. -/
def octalByte (digits : Octets) : Char :=
  Char.ofNat ((digits.foldl (fun value octet =>
    value * 8 + (octet.toNat - 0x30)) 0) % 256)

/-- The octets of a number in decimal. -/
def ofNat (value : Nat) : Octets :=
  (toString value).toList

end Octets
end Program
end ReportBinding
