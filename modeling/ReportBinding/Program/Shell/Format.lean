import ReportBinding.Program.Octets

/-!
# Formatted octets

Backslash escapes and the conversions of a format: texts, characters and whole
numbers, with a width, a precision, and filling on either side.  A format is
used again as long as it consumes arguments and some are left.
-/

namespace ReportBinding
namespace Program
namespace Shell

/-- The octet that the text behind a backslash spells, and what follows.  An
unknown escape stands for the backslash alone. -/
def escape : Octets → Char × Octets
  | 'a' :: rest => ('\x07', rest)
  | 'b' :: rest => ('\x08', rest)
  | 'e' :: rest => ('\x1b', rest)
  | 'f' :: rest => ('\x0c', rest)
  | 'n' :: rest => ('\n', rest)
  | 'r' :: rest => ('\r', rest)
  | 't' :: rest => ('\t', rest)
  | 'v' :: rest => ('\x0b', rest)
  | '\\' :: rest => ('\\', rest)
  | octets =>
      let digits := (octets.take 3).takeWhile Octets.isOctalDigit
      if digits.isEmpty then ('\\', octets)
      else (Octets.octalByte digits, octets.drop digits.length)

/-- As `escape`, where one zero may stand before the octal digits. -/
def escapeZero : Octets → Char × Octets
  | '0' :: octet :: rest =>
      if Octets.isOctalDigit octet then escape (octet :: rest)
      else escape ('0' :: octet :: rest)
  | octets => escape octets

/-- A text with its escapes replaced, and whether an escape `c` ended it.  The
first argument bounds the number of steps. -/
def unescapeFrom : Nat → Octets → Octets × Bool
  | _ + 1, '\\' :: 'c' :: _ => ([], true)
  | fuel + 1, '\\' :: rest =>
      let (octet, rest) := escapeZero rest
      let (behind, stopped) := unescapeFrom fuel rest
      (octet :: behind, stopped)
  | fuel + 1, octet :: rest =>
      let (behind, stopped) := unescapeFrom fuel rest
      (octet :: behind, stopped)
  | _, _ => ([], false)

/-- A text with its escapes replaced, and whether an escape `c` ended it. -/
def unescape (octets : Octets) : Octets × Bool :=
  unescapeFrom (octets.length + 1) octets

/-- How a conversion is laid out. -/
structure Conversion where
  leftAligned : Bool
  zeroFilled : Bool
  /-- What stands before a number that is not negative. -/
  sign : Octets
  /-- Whether a number shows its base. -/
  showsBase : Bool
  width : Nat
  precision : Option Nat
deriving DecidableEq, Repr

/-- Add fill octets up to the width. -/
def Conversion.fill (conversion : Conversion) (octets : Octets) : Octets :=
  let missing := conversion.width - octets.length
  if conversion.leftAligned then octets ++ List.replicate missing ' '
  else List.replicate missing ' ' ++ octets

/-- Digits behind what stands before them, filled up to the width. -/
def Conversion.number (conversion : Conversion) (opening digits : Octets) :
    Octets :=
  let digits := match conversion.precision with
    | some least =>
        if least = 0 ∧ digits = ['0'] then []
        else List.replicate (least - digits.length) '0' ++ digits
    | none => digits
  if conversion.zeroFilled && !conversion.leftAligned &&
      conversion.precision.isNone then
    opening ++ List.replicate
      (conversion.width - opening.length - digits.length) '0' ++ digits
  else conversion.fill (opening ++ digits)

/-- The value of a digit of any base up to sixteen. -/
def digitValue (octet : Char) : Nat :=
  if octet.isDigit then octet.toNat - 0x30
  else if 'a' ≤ octet ∧ octet ≤ 'f' then octet.toNat - 0x57
  else if 'A' ≤ octet ∧ octet ≤ 'F' then octet.toNat - 0x37
  else 16

/-- What a numeric argument comes to. -/
structure Number where
  value : Int
  complaint : Option String
deriving DecidableEq, Repr

/-- Read digits in a base. -/
def Number.ofDigits (isNegative : Bool) (base : Nat) (octets : Octets) :
    Number :=
  let digits := octets.takeWhile fun octet => decide (digitValue octet < base)
  let complaint :=
    if digits.isEmpty then some "expected numeric value"
    else if digits.length < octets.length then some "not completely converted"
    else none
  let magnitude : Int := digits.foldl (fun value octet =>
    value * base + digitValue octet) (0 : Nat)
  ⟨if isNegative then -magnitude else magnitude, complaint⟩

/-- Read a numeric argument behind its sign. -/
def Number.ofUnsigned (isNegative : Bool) : Octets → Number
  | '0' :: 'x' :: rest => Number.ofDigits isNegative 16 rest
  | '0' :: 'X' :: rest => Number.ofDigits isNegative 16 rest
  | '0' :: rest => Number.ofDigits isNegative 8 ('0' :: rest)
  | octets => Number.ofDigits isNegative 10 octets

/-- Read a numeric argument.  No argument counts as zero, and a quote stands
for the value of the octet behind it. -/
def Number.ofArgument : Octets → Number
  | [] => ⟨0, none⟩
  | '\'' :: octet :: _ => ⟨octet.toNat, none⟩
  | '"' :: octet :: _ => ⟨octet.toNat, none⟩
  | '-' :: rest => Number.ofUnsigned true rest
  | '+' :: rest => Number.ofUnsigned false rest
  | octets => Number.ofUnsigned false octets

/-- The nearest number between two bounds, with a complaint if it is another
one. -/
def Number.clamp (number : Number) (least most : Int) : Number :=
  if number.value < least then ⟨least, some "Numerical result out of range"⟩
  else if most < number.value then
    ⟨most, some "Numerical result out of range"⟩
  else number

/-- The bound of numbers of 64 bits that have a sign. -/
def signBound : Int := 0x8000000000000000

/-- The bound of numbers of 64 bits that have none. -/
def wordBound : Int := 0x10000000000000000

/-- A formatting under way. -/
structure Formatting where
  /-- The pieces written, last first. -/
  pieces : List Octets
  arguments : List Octets
  /-- Complaints, last first. -/
  complaints : List Octets
  /-- The status to end with. -/
  status : Nat
  stopped : Bool

namespace Formatting

/-- Write a piece. -/
def write (state : Formatting) (octets : Octets) : Formatting :=
  { state with pieces := octets :: state.pieces }

/-- The formatting behind its next argument. -/
def next (state : Formatting) : Formatting :=
  { state with arguments := state.arguments.tail }

/-- The next argument, which is empty when there is none. -/
def argument (state : Formatting) : Octets :=
  state.arguments.headD []

/-- End with a complaint. -/
def fail (state : Formatting) (complaint : Octets) : Formatting :=
  { state with
    complaints := complaint :: state.complaints
    status := 2
    stopped := true }

/-- Note a complaint about the next argument. -/
def note (state : Formatting) (complaint : Option String) : Formatting :=
  match complaint with
  | some complaint =>
      { state with
        complaints :=
          (state.argument ++ [':', ' '] ++ complaint.toList) ::
            state.complaints
        status := 1 }
  | none => state

/-- Convert the next argument to decimal digits with a sign. -/
def convertSigned (state : Formatting) (conversion : Conversion) :
    Formatting :=
  let number :=
    (Number.ofArgument state.argument).clamp (-signBound) (signBound - 1)
  ((state.note number.complaint).write
    (conversion.number
      (if number.value < 0 then ['-'] else conversion.sign)
      (Nat.toDigits 10 number.value.natAbs))).next

/-- Convert the next argument to the digits of a base, negative numbers to
those of their complement.  `mark` shows the base. -/
def convertUnsigned (state : Formatting) (conversion : Conversion)
    (base : Nat) (mark : Octets) (spell : Char → Char) : Formatting :=
  let number :=
    (Number.ofArgument state.argument).clamp (1 - wordBound) (wordBound - 1)
  let value := (number.value % wordBound).toNat
  ((state.note number.complaint).write
    (conversion.number
      (if conversion.showsBase && value != 0 then mark else [])
      ((Nat.toDigits base value).map spell))).next

/-- Convert the next argument as a conversion letter asks.  `spelling` is the
conversion as it is written. -/
def convert (state : Formatting) (conversion : Conversion)
    (spelling : Octets) : Option Char → Formatting
  | some 's' =>
      let argument := state.argument
      let cut := match conversion.precision with
        | some most => argument.take most
        | none => argument
      (state.write (conversion.fill cut)).next
  | some 'b' =>
      let (text, stopped) := unescape state.argument
      { (state.write (conversion.fill text)).next with stopped := stopped }
  | some 'c' =>
      (state.write (conversion.fill [state.argument.headD '\x00'])).next
  | some 'd' => state.convertSigned conversion
  | some 'i' => state.convertSigned conversion
  | some 'u' => state.convertUnsigned conversion 10 [] id
  | some 'o' => state.convertUnsigned conversion 8 ['0'] id
  | some 'x' => state.convertUnsigned conversion 16 ['0', 'x'] id
  | some 'X' => state.convertUnsigned conversion 16 ['0', 'X'] Char.toUpper
  | some letter =>
      state.fail (spelling ++ letter :: ": invalid directive".toList)
  | none => state.fail "missing format character".toList

/-- The number that a width or a precision comes to, how it is written, and
what follows.  A star stands for the next argument. -/
def readNumber (state : Formatting) :
    Octets → Formatting × Int × Octets × Octets
  | '*' :: rest =>
      let number := Number.ofArgument state.argument
      ((state.note number.complaint).next, number.value, ['*'], rest)
  | octets =>
      let digits := octets.takeWhile Char.isDigit
      (state, (Octets.number? digits).getD 0, digits,
        octets.dropWhile Char.isDigit)

/-- The conversion that follows a percent sign, as it is written, and what
follows its numbers. -/
def readConversion (state : Formatting) (octets : Octets) :
    Formatting × Conversion × Octets × Octets :=
  let isFlag := fun octet : Char => "#-+ 0".toList.contains octet
  let flags := octets.takeWhile isFlag
  let (state, width, widthSpelling, rest) :=
    state.readNumber (octets.dropWhile isFlag)
  let (state, precision, spelling, rest) :=
    match rest with
    | '.' :: behindPoint =>
        let (state, precision, spelling, rest) := state.readNumber behindPoint
        (state, if precision < 0 then none else some precision.toNat,
          '.' :: spelling, rest)
    | _ => (state, none, [], rest)
  let sign : Octets :=
    if flags.contains '+' then ['+']
    else if flags.contains ' ' then [' ']
    else []
  (state,
    ⟨flags.contains '-' || width < 0, flags.contains '0', sign,
      flags.contains '#', width.natAbs, precision⟩,
    '%' :: flags ++ widthSpelling ++ spelling, rest)

end Formatting

/-- Go through a format once.  The first argument bounds the number of
steps. -/
def formatOnce : Nat → Octets → Formatting → Formatting
  | 0, _, state => state
  | _ + 1, [], state => state
  | fuel + 1, octet :: rest, state =>
      if state.stopped then state
      else match octet, rest with
        | '\\', _ =>
            let (escaped, behind) := escape rest
            formatOnce fuel behind (state.write [escaped])
        | '%', '%' :: behind => formatOnce fuel behind (state.write ['%'])
        | '%', _ =>
            let (state, conversion, spelling, behind) :=
              state.readConversion rest
            formatOnce fuel behind.tail
              (state.convert conversion spelling behind.head?)
        | _, _ => formatOnce fuel rest (state.write [octet])

/-- Go through a format as often as it consumes arguments. -/
def formatAll (format : Octets) : Nat → Formatting → Formatting
  | 0, state => state
  | fuel + 1, state =>
      let after := formatOnce (format.length + 1) format state
      if after.stopped || after.arguments.isEmpty ||
          after.arguments.length == state.arguments.length then after
      else formatAll format fuel after

/-- What a formatting comes to. -/
structure Formatted where
  text : Octets
  complaints : List Octets
  status : Nat

/-- Format arguments. -/
def format (format : Octets) (arguments : List Octets) : Formatted :=
  let state := formatAll format (arguments.length + 1)
    ⟨[], arguments, [], 0, false⟩
  ⟨state.pieces.reverse.flatten, state.complaints.reverse, state.status⟩

end Shell
end Program
end ReportBinding
