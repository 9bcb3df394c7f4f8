import ReportBinding.Decimal.Shortest

/-!
# JSON numerals

A numeral is kept as it is spelled, and has a value only when one is asked
for.  Whole numbers of up to 64 bits are exact.  All other numerals stand for
floating-point numbers, found by scaling the leading digits that fit into 64
bits; a numeral that is too large for one has no value.
-/

namespace ReportBinding
namespace Json

/-- The bound of whole numbers of 32 bits. -/
def numberBound : Nat := 0x100000000

/-- A numeral, by its parts. -/
structure Numeral where
  negative : Bool
  whole : List Char
  fraction : List Char
  /-- The exponent: whether it is negative, and its digits. -/
  exponent : Option (Bool × List Char)
deriving DecidableEq, Repr

/-- The value of a numeral. -/
inductive Quantity where
  /-- A whole number that is not negative. -/
  | natural (value : Nat)
  /-- The negative of a positive whole number. -/
  | negative (magnitude : Nat)
  /-- A floating-point number. -/
  | float (value : Float)

namespace Numeral

/-- The numeral of a whole number. -/
def ofNat (value : Nat) : Numeral :=
  ⟨false, Nat.toDigits 10 value, [], none⟩

/-- The number that a digit stands for. -/
def digitValue (digit : Char) : Nat :=
  digit.toNat - 0x30

/-- The value of a sequence of digits. -/
def digitsValue (digits : List Char) : Nat :=
  digits.foldl (fun value digit => value * 10 + digitValue digit) 0

/-- The bound of unsigned numbers of 64 bits. -/
def wordBound : Nat := 0x10000000000000000

/-- The bound of exponents. -/
def exponentBound : Nat := 0x80000000

/-- The value of the leading digits of a whole number, as long as it fits into
64 bits, and the number of digits behind them. -/
def leading (value : Nat) : List Char → Nat × Nat
  | [] => (value, 0)
  | digit :: rest =>
      let next := value * 10 + digitValue digit
      if next < wordBound then leading next rest else (value, rest.length + 1)

/-- A significand to which digits of a fraction are added as long as it fits
into 64 bits, and the number of digits added. -/
def addFraction (value count : Nat) : List Char → Nat × Nat
  | [] => (value, count)
  | digit :: rest =>
      let next := value * 10 + digitValue digit
      if next < wordBound then addFraction next (count + 1) rest
      else (value, count)

/-- The greatest power of ten that is applied at once. -/
def greatestPower : Nat := 308

/-- A power of ten as a floating-point number. -/
def power (exponent : Nat) : Float :=
  Float.ofScientific 1 false exponent

/-- A floating-point number times a power of ten, unless it is too large.  The
first argument bounds the number of steps. -/
def scale : Nat → Float → Int → Option Float
  | 0, value, _ => some value
  | fuel + 1, value, exponent =>
      if exponent.natAbs ≤ greatestPower then
        if 0 ≤ exponent then
          let scaled := value * power exponent.natAbs
          if scaled.isInf then none else some scaled
        else some (value / power exponent.natAbs)
      else if value == 0 then some value
      else if 0 ≤ exponent then none
      else
        scale fuel (value / power greatestPower)
          (exponent + (greatestPower : Int))

/-- How often a significand can be divided by the greatest power before
nothing is left of it. -/
def maximumScalings : Nat := 4

/-- The floating-point value of a significand with an exponent. -/
def toFloat (isNegative : Bool) (significand : Nat) (exponent : Int) :
    Option Float :=
  (scale maximumScalings significand.toUInt64.toFloat exponent).map
    fun magnitude => if isNegative then -magnitude else magnitude

/-- The floating-point value of a numeral. -/
def float? (numeral : Numeral) : Option Float :=
  let (whole, ignored) := leading 0 numeral.whole
  let (significand, added) := addFraction whole 0 numeral.fraction
  let exponent : Int := (ignored : Int) - (added : Int)
  match numeral.exponent with
  | none => toFloat numeral.negative significand exponent
  | some (isNegative, digits) =>
      let magnitude := digitsValue digits
      if exponentBound ≤ magnitude then
        if significand ≠ 0 ∧ !isNegative then none
        else some (if numeral.negative then -0.0 else 0.0)
      else
        toFloat numeral.negative significand
          (if isNegative then exponent - magnitude else exponent + magnitude)

/-- The value of a numeral, unless it is too large. -/
def quantity? (numeral : Numeral) : Option Quantity :=
  if numeral.fraction.isEmpty && numeral.exponent.isNone then
    let value := digitsValue numeral.whole
    if numeral.negative then
      if 0 < value ∧ value ≤ wordBound / 2 then some (.negative value)
      else numeral.float?.map .float
    else if value < wordBound then some (.natural value)
    else numeral.float?.map .float
  else numeral.float?.map .float

/-- The characters of a numeral. -/
def spelling (numeral : Numeral) : List Char :=
  (if numeral.negative then ['-'] else []) ++ numeral.whole ++
    (if numeral.fraction.isEmpty then [] else '.' :: numeral.fraction) ++
      match numeral.exponent with
      | none => []
      | some (isNegative, digits) =>
          'e' :: (if isNegative then ['-'] else []) ++ digits

end Numeral
end Json
end ReportBinding
