import ReportBinding.Text.Blank
import ReportBinding.Text.Hex

/-!
# Quotes

A quote is what the hardware signs, and is handed on byte for byte.
-/

namespace ReportBinding

/-- A quote, as the bytes that it was delivered in. -/
@[ext] structure Quote where
  bytes : Bytes
deriving DecidableEq, Repr

namespace Quote

/-- The lowercase hexadecimal text of a quote. -/
def toHex (quote : Quote) : String :=
  Hex.encode quote.bytes

/-- The quote that a hexadecimal text spells, behind any number of marks
`0x`. -/
def ofHex (text : String) : Except Hex.Fault Quote :=
  (Hex.decode (String.ofList (Text.dropHexMarks text.toList))).map Quote.mk

/-- How diagnostics show a quote. -/
def describe (quote : Quote) : String :=
  "Quote(" ++ toString quote.bytes.length ++ " bytes)"

end Quote
end ReportBinding
