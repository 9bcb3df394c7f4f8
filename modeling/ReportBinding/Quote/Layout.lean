import ReportBinding.Provenance.ReportData
import ReportBinding.Quote.Basic
import ReportBinding.Text.Quoted

/-!
# Layout of TDX quotes

A quote begins with a header of fixed length.  Its version decides where the
64 bytes of report data stand behind it.  Signatures and certificates are not
looked at.
-/

namespace ReportBinding
namespace Quote

/-- The number of bytes of a header. -/
def headerLength : Nat := 48

/-- The number of bytes of a report body in front of the report data. -/
def bodyLeadLength : Nat := 520

/-- The number of bytes that version 5 puts between header and body. -/
def bodyDescriptorLength : Nat := 6

/-- The type number of a TDX environment. -/
def tdxType : Nat := 0x81

/-- Why no report data can be read from a quote. -/
inductive Fault where
  /-- The quote has fewer bytes than a header. -/
  | shorterThanHeader (length : Nat)
  /-- The quote comes from another kind of environment. -/
  | notTdx (teeType : Nat)
  /-- The layout of the version is unknown. -/
  | unsupportedVersion (version : Nat)
  /-- The quote ends before its report data does. -/
  | truncated (length reportDataEnd : Nat)
  /-- A reason in words of its own. -/
  | other (reason : String)
deriving DecidableEq, Repr

/-- The wording of a refusal. -/
def Fault.message : Fault → String
  | .shorterThanHeader length =>
      toString length ++ " bytes is shorter than the quote header"
  | .notTdx teeType =>
      "tee_type 0x" ++ String.ofList (Text.hexDigits teeType) ++ " is not TDX"
  | .unsupportedVersion version =>
      "unsupported quote version " ++ toString version
  | .truncated length reportDataEnd =>
      "quote truncated: " ++ toString length ++
        " bytes, report_data ends at " ++ toString reportDataEnd
  | .other reason => reason

/-- The numbers at the front of a quote. -/
structure Header where
  version : Nat
  attestationKeyType : Nat
  teeType : Nat
deriving DecidableEq, Repr

/-- The header of a sequence of bytes. -/
def readHeader (bytes : Bytes) : Except Fault Header :=
  if bytes.length < headerLength then
    .error (.shorterThanHeader bytes.length)
  else
    .ok ⟨Bytes.littleEndian (Bytes.slice 0 2 bytes),
      Bytes.littleEndian (Bytes.slice 2 2 bytes),
      Bytes.littleEndian (Bytes.slice 4 4 bytes)⟩

/-- The position of the report data in quotes of a version. -/
def reportDataOffset : Nat → Except Fault Nat
  | 4 => .ok (headerLength + bodyLeadLength)
  | 5 => .ok (headerLength + bodyDescriptorLength + bodyLeadLength)
  | version => .error (.unsupportedVersion version)

/-- The report data in a sequence of bytes. -/
def extractReportData (bytes : Bytes) : Except Fault ReportData :=
  match readHeader bytes with
  | .error fault => .error fault
  | .ok header =>
      if header.teeType ≠ tdxType then .error (.notTdx header.teeType)
      else match reportDataOffset header.version with
        | .error fault => .error fault
        | .ok offset =>
            if fits : offset + ReportData.width ≤ bytes.length then
              .ok ⟨Bytes.slice offset ReportData.width bytes, by
                simp only [Bytes.slice, List.length_take, List.length_drop]
                simp only [ReportData.width] at fits ⊢
                omega⟩
            else
              .error (.truncated bytes.length (offset + ReportData.width))

/-- The report data that a quote attests. -/
def reportData (quote : Quote) : Except Fault ReportData :=
  extractReportData quote.bytes

/-- The type number of ECDSA keys on the curve P-256. -/
def ecdsaKeyType : Nat := 2

/-- The number of bytes that a bare quote has behind its report data. -/
def bareTailLength : Nat := 68

/-- A quote of a version with nothing in it but its header and report data.
The layout of unknown versions is that of version 4. -/
def bare (version : Nat) (reportData : ReportData) : Quote :=
  let offset := match reportDataOffset version with
    | .ok offset => offset
    | .error _ => headerLength + bodyLeadLength
  let zeros := List.replicate (offset + ReportData.width + bareTailLength) 0
  ⟨Bytes.overwrite offset reportData.bytes <|
    Bytes.overwrite 4 (Bytes.ofLittleEndian 4 tdxType) <|
      Bytes.overwrite 2 (Bytes.ofLittleEndian 2 ecdsaKeyType) <|
        Bytes.overwrite 0 (Bytes.ofLittleEndian 2 version) zeros⟩

end Quote
end ReportBinding
