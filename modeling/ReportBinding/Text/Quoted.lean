import ReportBinding.Text.Shapeless

/-!
# Quoted text

A quoted text can be read on one line: quotes, backslashes and the common
controls have short escapes, and every other character without a shape of its
own is spelled as its code point in braces.  A text stands between double
quotes and a single character between single quotes; only the quote that
surrounds is escaped.
-/

namespace ReportBinding
namespace Text

/-- The lowercase hexadecimal digits of a number. -/
def hexDigits (value : Nat) : List Char :=
  Nat.toDigits 16 value

/-- The spelling of a character between quotes of the given kind. -/
def escapeChar (quote character : Char) : List Char :=
  if character = quote ∨ character = '\\' then ['\\', character]
  else if character = '\n' then ['\\', 'n']
  else if character = '\r' then ['\\', 'r']
  else if character = '\t' then ['\\', 't']
  else if character.toNat = 0 then ['\\', '0']
  else if isShapeless character then
    ['\\', 'u', '\x7b'] ++ hexDigits character.toNat ++ ['\x7d']
  else [character]

/-- A text between double quotes. -/
def quote (text : String) : String :=
  String.ofList ('"' :: text.toList.flatMap (escapeChar '"') ++ ['"'])

/-- A character between single quotes. -/
def quoteChar (character : Char) : String :=
  String.ofList ('\'' :: escapeChar '\'' character ++ ['\''])

end Text
end ReportBinding
