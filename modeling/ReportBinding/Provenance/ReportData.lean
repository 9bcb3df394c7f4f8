import ReportBinding.Hash.Sha512
import ReportBinding.Text.Blank
import ReportBinding.Text.Hex

/-!
# Report data

Report data is the payload that the hardware signs: the 64 bytes that a quote
has room for, which a SHA-512 digest fills exactly.
-/

namespace ReportBinding

/-- The 64 bytes that a quote attests. -/
@[ext] structure ReportData where
  bytes : Bytes
  length_bytes : bytes.length = 64
deriving DecidableEq

namespace ReportData

/-- The number of bytes of report data. -/
def width : Nat := 64

/-- Why a text is no report data. -/
inductive Fault where
  /-- The text is no sequence of hexadecimal digit pairs. -/
  | notHex (fault : Hex.Fault)
  /-- The text spells a wrong number of bytes. -/
  | wrongLength (length : Nat)
  /-- A reason in words of its own. -/
  | other (reason : String)
deriving DecidableEq, Repr

/-- The wording of a refusal. -/
def Fault.message : Fault → String
  | .notHex fault => fault.message
  | .wrongLength length => "expected 64 bytes, got " ++ toString length
  | .other reason => reason

/-- The report data with the given bytes, if there are 64 of them. -/
def ofBytes (bytes : Bytes) : Except Fault ReportData :=
  if fits : bytes.length = 64 then .ok ⟨bytes, fits⟩
  else .error (.wrongLength bytes.length)

/-- The SHA-512 digest of a message as report data. -/
def ofDigest (message : Bytes) : ReportData :=
  ⟨Hash.sha512 message, Hash.length_sha512 message⟩

/-- The lowercase hexadecimal text of report data. -/
def toHex (reportData : ReportData) : String :=
  Hex.encode reportData.bytes

/-- How diagnostics show report data. -/
def describe (reportData : ReportData) : String :=
  "ReportData(" ++ reportData.toHex ++ ")"

/-- The report data that a text spells.  Blanks around the digits and one mark
`0x` in front of them are passed over. -/
def ofHex (text : String) : Except Fault ReportData :=
  let digits := Text.dropHexMark (Text.trimmed text.toList)
  match Hex.decode (String.ofList digits) with
  | .ok bytes => ofBytes bytes
  | .error fault => .error (.notHex fault)

end ReportData
end ReportBinding
