import ReportBinding.Json.Numeral

/-!
# JSON tokens

A text is cut into tokens character by character.  Where it stops being
well formed the tokens end in `bad`, so that whatever stands before can still
be judged first.
-/

namespace ReportBinding
namespace Json

/-- A token.  A string has no text if one of its escapes is half of a pair of
surrogates whose other half is missing. -/
inductive Token where
  | openBracket
  | closeBracket
  | openBrace
  | closeBrace
  | comma
  | colon
  | null
  | boolean (value : Bool)
  | number (numeral : Numeral)
  | string (text : Option String)
  | bad
deriving DecidableEq, Repr

/-- A string under way. -/
structure Draft where
  /-- The characters so far, last first. -/
  characters : List Char
  /-- Whether all surrogates so far stand in pairs. -/
  paired : Bool
  /-- The first half of a pair right before. -/
  pending : Option Nat
deriving DecidableEq, Repr

namespace Draft

/-- The string with no characters. -/
def empty : Draft := ⟨[], true, none⟩

/-- Add a character. -/
def push (draft : Draft) (character : Char) : Draft :=
  ⟨character :: draft.characters, draft.paired && draft.pending.isNone, none⟩

/-- Whether a number is the first half of a pair of surrogates. -/
def isFirstHalf (unit : Nat) : Bool :=
  0xD800 ≤ unit && unit < 0xDC00

/-- Whether a number is the second half of a pair of surrogates. -/
def isSecondHalf (unit : Nat) : Bool :=
  0xDC00 ≤ unit && unit < 0xE000

/-- Add an escaped unit of UTF-16. -/
def pushUnit (draft : Draft) (unit : Nat) : Draft :=
  if isSecondHalf unit then
    match draft.pending with
    | some first =>
        ⟨Char.ofNat (0x10000 + (first - 0xD800) * 0x400 + (unit - 0xDC00)) ::
          draft.characters, draft.paired, none⟩
    | none => ⟨draft.characters, false, none⟩
  else if isFirstHalf unit then
    ⟨draft.characters, draft.paired && draft.pending.isNone, some unit⟩
  else draft.push (Char.ofNat unit)

/-- The token of the finished string. -/
def token (draft : Draft) : Token :=
  .string
    (if draft.paired && draft.pending.isNone then
      some (String.ofList draft.characters.reverse)
    else none)

end Draft

/-- Which part of a numeral comes next, or may go on. -/
inductive NumeralPart where
  /-- The first digit, behind a sign. -/
  | start
  /-- Nothing more of the whole number, which is zero. -/
  | zero
  /-- More digits of the whole number. -/
  | whole
  /-- The first digit of the fraction. -/
  | point
  /-- More digits of the fraction. -/
  | fraction
  /-- The sign or the first digit of the exponent. -/
  | mark
  /-- The first digit of the exponent, behind its sign. -/
  | sign
  /-- More digits of the exponent. -/
  | exponent
deriving DecidableEq, Repr

/-- Whether a numeral may end before the part that comes next. -/
def NumeralPart.mayEnd : NumeralPart → Bool
  | .zero => true
  | .whole => true
  | .fraction => true
  | .exponent => true
  | _ => false

/-- What the cutting is in the midst of. -/
inductive Mode where
  /-- Between tokens. -/
  | between
  /-- In a word of which some characters are still due. -/
  | word (due : List Char) (token : Token)
  /-- In a numeral, whose digits so far are in reverse. -/
  | numeral (part : NumeralPart) (numeral : Numeral)
  /-- In a string. -/
  | string (draft : Draft)
  /-- Behind a backslash. -/
  | escape (draft : Draft)
  /-- In an escaped unit, with the number of digits due and the value so far. -/
  | unit (draft : Draft) (due value : Nat)
  /-- Behind the end of what is well formed. -/
  | stopped
deriving DecidableEq, Repr

/-- Stop at a character that is out of place. -/
def stop : List Token × Mode := ([.bad], .stopped)

/-- Whether a character may stand between tokens. -/
def isSpace (character : Char) : Bool :=
  character == ' ' || character == '\t' || character == '\n' ||
    character == '\r'

/-- Take a character between tokens. -/
def begin (character : Char) : List Token × Mode :=
  match character with
  | '[' => ([.openBracket], .between)
  | ']' => ([.closeBracket], .between)
  | '\x7b' => ([.openBrace], .between)
  | '\x7d' => ([.closeBrace], .between)
  | ',' => ([.comma], .between)
  | ':' => ([.colon], .between)
  | '"' => ([], .string Draft.empty)
  | 'n' => ([], .word ['u', 'l', 'l'] .null)
  | 't' => ([], .word ['r', 'u', 'e'] (.boolean true))
  | 'f' => ([], .word ['a', 'l', 's', 'e'] (.boolean false))
  | '-' => ([], .numeral .start ⟨true, [], [], none⟩)
  | '0' => ([], .numeral .zero ⟨false, ['0'], [], none⟩)
  | _ =>
      if character.isDigit then
        ([], .numeral .whole ⟨false, [character], [], none⟩)
      else if isSpace character then ([], .between)
      else stop

/-- A numeral whose digits are in reverse, with a further digit of the whole
number. -/
def Numeral.pushWhole (numeral : Numeral) (digit : Char) : Numeral :=
  { numeral with whole := digit :: numeral.whole }

/-- A numeral whose digits are in reverse, with a further digit of the
fraction. -/
def Numeral.pushFraction (numeral : Numeral) (digit : Char) : Numeral :=
  { numeral with fraction := digit :: numeral.fraction }

/-- A numeral whose digits are in reverse, with a further digit of the
exponent. -/
def Numeral.pushExponent (numeral : Numeral) (digit : Char) : Numeral :=
  { numeral with
    exponent := numeral.exponent.map fun (isNegative, digits) =>
      (isNegative, digit :: digits) }

/-- The numeral with all its digits turned round. -/
def Numeral.reverse (numeral : Numeral) : Numeral :=
  { numeral with
    whole := numeral.whole.reverse
    fraction := numeral.fraction.reverse
    exponent := numeral.exponent.map fun (isNegative, digits) =>
      (isNegative, digits.reverse) }

/-- Whether a character announces an exponent. -/
def isExponentMark (character : Char) : Bool :=
  character == 'e' || character == 'E'

/-- How a numeral goes on with a character, if it does. -/
def continueNumeral (part : NumeralPart) (numeral : Numeral)
    (character : Char) : Option Mode :=
  let mark : Mode := .numeral .mark { numeral with exponent := some (false, []) }
  match part with
  | .start =>
      if character = '0' then
        some (.numeral .zero (numeral.pushWhole character))
      else if character.isDigit then
        some (.numeral .whole (numeral.pushWhole character))
      else none
  | .zero =>
      if character = '.' then some (.numeral .point numeral)
      else if isExponentMark character then some mark
      else none
  | .whole =>
      if character.isDigit then
        some (.numeral .whole (numeral.pushWhole character))
      else if character = '.' then some (.numeral .point numeral)
      else if isExponentMark character then some mark
      else none
  | .point =>
      if character.isDigit then
        some (.numeral .fraction (numeral.pushFraction character))
      else none
  | .fraction =>
      if character.isDigit then
        some (.numeral .fraction (numeral.pushFraction character))
      else if isExponentMark character then some mark
      else none
  | .mark =>
      if character = '+' then some (.numeral .sign numeral)
      else if character = '-' then
        some (.numeral .sign { numeral with exponent := some (true, []) })
      else if character.isDigit then
        some (.numeral .exponent (numeral.pushExponent character))
      else none
  | .sign =>
      if character.isDigit then
        some (.numeral .exponent (numeral.pushExponent character))
      else none
  | .exponent =>
      if character.isDigit then
        some (.numeral .exponent (numeral.pushExponent character))
      else none

/-- The character that an escape of one letter stands for. -/
def escaped? (letter : Char) : Option Char :=
  match letter with
  | '"' => some '"'
  | '\\' => some '\\'
  | '/' => some '/'
  | 'b' => some '\x08'
  | 'f' => some '\x0c'
  | 'n' => some '\n'
  | 'r' => some '\r'
  | 't' => some '\t'
  | _ => none

/-- The value of a hexadecimal digit of either case. -/
def hexValue? (character : Char) : Option Nat :=
  if '0' ≤ character ∧ character ≤ '9' then some (character.toNat - 0x30)
  else if 'a' ≤ character ∧ character ≤ 'f' then
    some (character.toNat - 0x57)
  else if 'A' ≤ character ∧ character ≤ 'F' then
    some (character.toNat - 0x37)
  else none

/-- Take one character: the tokens that it finishes, and how things go on. -/
def step (mode : Mode) (character : Char) : List Token × Mode :=
  match mode with
  | .between => begin character
  | .word due token =>
      match due with
      | [] => stop
      | [expected] =>
          if character = expected then ([token], .between) else stop
      | expected :: due =>
          if character = expected then ([], .word due token) else stop
  | .numeral part numeral =>
      match continueNumeral part numeral character with
      | some mode => ([], mode)
      | none =>
          -- A zero is followed by no digit, though digits begin numerals.
          if part.mayEnd && !(part == .zero && character.isDigit) then
            let (tokens, mode) := begin character
            (.number numeral.reverse :: tokens, mode)
          else stop
  | .string draft =>
      if character = '"' then ([draft.token], .between)
      else if character = '\\' then ([], .escape draft)
      else if character.toNat < 0x20 then stop
      else ([], .string (draft.push character))
  | .escape draft =>
      if character = 'u' then ([], .unit draft 4 0)
      else match escaped? character with
        | some escaped => ([], .string (draft.push escaped))
        | none => stop
  | .unit draft due value =>
      match hexValue? character with
      | none => stop
      | some digit =>
          let value := value * 16 + digit
          if due ≤ 1 then ([], .string (draft.pushUnit value))
          else ([], .unit draft (due - 1) value)
  | .stopped => ([], .stopped)

/-- The tokens that the end of a text finishes. -/
def finish (mode : Mode) : List Token :=
  match mode with
  | .between => []
  | .stopped => []
  | .numeral part numeral =>
      if part.mayEnd then [.number numeral.reverse] else [.bad]
  | _ => [.bad]

/-- The tokens of a list of characters, in the midst of something. -/
def tokensFrom (mode : Mode) : List Char → List Token
  | [] => finish mode
  | character :: rest =>
      let (tokens, mode) := step mode character
      tokens ++ tokensFrom mode rest

/-- The tokens of a text. -/
def tokens (text : String) : List Token :=
  tokensFrom .between text.toList

end Json
end ReportBinding
