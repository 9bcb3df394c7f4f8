import ReportBinding.Quote.Layout
import ReportBinding.Text.Lines

/-!
# Transcripts of quote generators

A generator prints its quote among other lines: behind a marker, or as a line
of nothing but hexadecimal digits that is long enough for a header.  It may
also print error lines, and still report success; an error line wins over any
quote.  The first marker line wins over all lines of digits, and of those the
last one counts.
-/

namespace ReportBinding
namespace Transcript

/-- What stands in front of a quote. -/
def quoteMarker : String := "tdx raw quote:"

/-- What stands at the front of an error line. -/
def errorMarker : String := "[ERROR]"

/-- Why a transcript holds no quote. -/
inductive Fault where
  /-- The transcript has an error line. -/
  | errorLine (line : String)
  /-- No line holds a quote. -/
  | noQuote
  /-- The text of the quote is no hexadecimal text. -/
  | notHex (fault : Hex.Fault)
  /-- The quote has no bytes. -/
  | emptyQuote
deriving DecidableEq, Repr

/-- The wording of a refusal. -/
def Fault.message : Fault → String
  | .errorLine line => line
  | .noQuote => "no quote in generator output"
  | .notHex fault => "quote is not valid hex: " ++ fault.message
  | .emptyQuote => "generator returned an empty quote"

/-- The lines of a transcript, without the blanks at their ends. -/
def linesOf (transcript : String) : List (List Char) :=
  (Text.linesOf transcript.toList).map Text.trimmed

/-- Whether a line is an error line. -/
def isErrorLine (line : List Char) : Bool :=
  (Text.after? errorMarker.toList line).isSome

/-- The first error line of a transcript. -/
def errorLine? (transcript : String) : Option String :=
  ((linesOf transcript).find? isErrorLine).map String.ofList

/-- Whether a character is a hexadecimal digit. -/
def isHexDigit (character : Char) : Bool :=
  character.isDigit || ('a' ≤ character && character ≤ 'f') ||
    ('A' ≤ character && character ≤ 'F')

/-- Whether a line is an even number of digits, enough for a header. -/
def isHexLine (line : List Char) : Bool :=
  2 * Quote.headerLength ≤ line.length && line.length % 2 == 0 &&
    line.all isHexDigit

/-- The characters left when double quotes are dropped at both ends. -/
def unquoted (characters : List Char) : List Char :=
  ((characters.dropWhile (· == '"')).reverse.dropWhile (· == '"')).reverse

/-- The payload of a marker line. -/
def payload? (line : List Char) : Option (List Char) :=
  (Text.after? quoteMarker.toList line).map fun rest =>
    unquoted (Text.trimmed rest)

/-- The text of the quote in a list of lines, when the lines before them have
brought up a line of digits. -/
def candidateAfter (digits : Option (List Char)) :
    List (List Char) → Option (List Char)
  | [] => digits
  | line :: rest =>
      match payload? line with
      | some payload => some payload
      | none =>
          let bare := Text.dropHexMark line
          candidateAfter (if isHexLine bare then some bare else digits) rest

/-- The bytes of a quote that are spelled by digits behind any number of marks
`0x`. -/
def decodeQuote (digits : List Char) : Except Fault Bytes :=
  match Hex.decode (String.ofList (Text.dropHexMarks digits)) with
  | .error fault => .error (.notHex fault)
  | .ok [] => .error .emptyQuote
  | .ok bytes => .ok bytes

/-- The quote that a transcript holds. -/
def parse (transcript : String) : Except Fault Bytes :=
  match errorLine? transcript with
  | some line => .error (.errorLine line)
  | none =>
      match candidateAfter none (linesOf transcript) with
      | some digits => decodeQuote digits
      | none => .error .noQuote

end Transcript
end ReportBinding
