/-!
# Shortest decimal digits of binary fractions

A finite floating-point number stands for all reals that round to it.  Its
shortest digits are the fewest decimal digits of a real among these, and of the
numbers with that many digits the one nearest to it.  All arithmetic here is on
whole numbers.
-/

namespace ReportBinding
namespace Decimal

/-- A positive number `mantissa * 2 ^ exponent` with the reals that round to
it.  The reals reach one half of a unit up, and one half or one quarter of a
unit down; both ends belong to them if the mantissa is even. -/
structure Binary where
  mantissa : Nat
  exponent : Int
  /-- Whether the neighbour below is only half as far away as the one above. -/
  lowerCloser : Bool
deriving DecidableEq, Repr

/-- The bound of the fraction bits of a floating-point number. -/
def fractionBound : Nat := 0x10000000000000

/-- The bound of the magnitude bits of a floating-point number. -/
def magnitudeBound : Nat := 0x8000000000000000

/-- The binary number with the given magnitude bits, unless it is zero. -/
def Binary.ofBits? (bits : Nat) : Option Binary :=
  let fraction : Nat := bits % fractionBound
  let biased : Nat := bits / fractionBound % 2048
  if biased = 0 then
    if fraction = 0 then none else some ⟨fraction, -1074, false⟩
  else
    some ⟨fractionBound + fraction, (biased : Int) - 1075,
      fraction == 0 && biased != 1⟩

/-- A positive decimal number: `digits * 10 ^ exponent`. -/
structure Digits where
  digits : Nat
  exponent : Int
deriving DecidableEq, Repr

/-- A fraction of whole numbers. -/
structure Ratio where
  numerator : Nat
  denominator : Nat
deriving DecidableEq, Repr

/-- The value of a multiple of a power. -/
def Ratio.ofPower (multiple base : Nat) (exponent : Int) : Ratio :=
  if exponent < 0 then ⟨multiple, Nat.pow base (-exponent).toNat⟩
  else ⟨multiple * Nat.pow base exponent.toNat, 1⟩

/-- Whether one fraction is below another. -/
def Ratio.less (left right : Ratio) : Bool :=
  decide (left.numerator * right.denominator <
    right.numerator * left.denominator)

/-- Whether a decimal number rounds to a binary one. -/
def Binary.contains (binary : Binary) (decimal : Digits) : Bool :=
  let value := Ratio.ofPower decimal.digits 10 decimal.exponent
  let lowest := Ratio.ofPower
    (if binary.lowerCloser then 4 * binary.mantissa - 1
      else 4 * binary.mantissa - 2) 2 (binary.exponent - 2)
  let highest := Ratio.ofPower (4 * binary.mantissa + 2) 2 (binary.exponent - 2)
  if binary.mantissa % 2 = 0 then
    !value.less lowest && !highest.less value
  else lowest.less value && value.less highest

/-- The greatest multiple of a power of ten that a binary number reaches, as
the factor of the power. -/
def Binary.floorAt (binary : Binary) (exponent : Int) : Nat :=
  let value := Ratio.ofPower binary.mantissa 2 binary.exponent
  let unit := Ratio.ofPower 1 10 exponent
  value.numerator * unit.denominator / (value.denominator * unit.numerator)

/-- Whether the decimal number above is nearer than the one below, or as near
and has an even last digit. -/
def Binary.prefersUpper (binary : Binary) (below : Nat) (exponent : Int) :
    Bool :=
  let value := Ratio.ofPower binary.mantissa 2 binary.exponent
  let middle := Ratio.ofPower (10 * below + 5) 10 (exponent - 1)
  if middle.less value then true
  else if value.less middle then false
  else below % 2 == 1

/-- The decimal number on one grid that rounds to a binary number and is
nearest to it, if one does. -/
def Binary.onGrid? (binary : Binary) (exponent : Int) : Option Digits :=
  let below := binary.floorAt exponent
  let lower : Digits := ⟨below, exponent⟩
  let upper : Digits := ⟨below + 1, exponent⟩
  match below != 0 && binary.contains lower, binary.contains upper with
  | true, true =>
      some (if binary.prefersUpper below exponent then upper else lower)
  | true, false => some lower
  | false, true => some upper
  | false, false => none

/-- The number of digits of a number in decimal. -/
def digitCount (value : Nat) : Nat :=
  (Nat.toDigits 10 value).length

/-- The exponent of the leading digit of a binary number. -/
def Binary.magnitude (binary : Binary) : Int :=
  let value := Ratio.ofPower binary.mantissa 2 binary.exponent
  if value.denominator ≤ value.numerator then
    (digitCount (value.numerator / value.denominator) : Int) - 1
  else
    let inverse := (value.denominator + value.numerator - 1) / value.numerator
    let power := digitCount inverse
    if inverse = Nat.pow 10 (power - 1) then 1 - (power : Int) else -(power : Int)

/-- The shortest digits, from a number of digits on. -/
def Binary.shortestFrom (binary : Binary) (count : Nat) : Nat → Digits
  | 0 =>
      let exponent := binary.magnitude - 16
      ⟨binary.floorAt exponent, exponent⟩
  | fuel + 1 =>
      match binary.onGrid? (binary.magnitude - count) with
      | some digits => digits
      | none => shortestFrom binary (count + 1) fuel

/-- The shortest digits of a binary number. -/
def Binary.shortest (binary : Binary) : Digits :=
  binary.shortestFrom 0 17

/-- How a decimal number is written. -/
structure Style where
  /-- The smallest exponent of a leading digit that is written in place. -/
  lowestInPlace : Int
  /-- The greatest exponent of a leading digit that is written in place. -/
  highestInPlace : Int
  /-- The least number of digits of a written exponent. -/
  leastExponentDigits : Nat
deriving DecidableEq, Repr

/-- The digits of a decimal number without zeros at the end. -/
def Digits.trimmed (decimal : Digits) : List Char :=
  ((Nat.toDigits 10 decimal.digits).reverse.dropWhile (· == '0')).reverse

/-- The exponent of the leading digit of a decimal number. -/
def Digits.magnitude (decimal : Digits) : Int :=
  decimal.exponent + digitCount decimal.digits - 1

/-- Write a decimal number.  In place there is a digit on either side of the
point; otherwise the leading digit stands in front of the point, if any follow,
and the exponent has a sign. -/
def Style.write (style : Style) (decimal : Digits) : List Char :=
  let digits := decimal.trimmed
  let magnitude := decimal.magnitude
  if style.lowestInPlace ≤ magnitude ∧ magnitude ≤ style.highestInPlace then
    if magnitude < 0 then
      ['0', '.'] ++ List.replicate (-magnitude - 1).toNat '0' ++ digits
    else
      let whole := magnitude.toNat + 1
      let behind := digits.drop whole
      digits.take whole ++ List.replicate (whole - digits.length) '0' ++
        '.' :: (if behind.isEmpty then ['0'] else behind)
  else
    let point := if digits.tail.isEmpty then [] else '.' :: digits.tail
    let exponent := Nat.toDigits 10 magnitude.natAbs
    digits.take 1 ++ point ++
      'e' :: (if magnitude < 0 then '-' else '+') ::
        List.replicate (style.leastExponentDigits - exponent.length) '0' ++
          exponent

/-- Write a finite floating-point number. -/
def Style.writeFloat (style : Style) (value : Float) : String :=
  let bits := value.toBits.toNat
  let sign := if bits < magnitudeBound then [] else ['-']
  String.ofList (sign ++
    match Binary.ofBits? (bits % magnitudeBound) with
    | none => ['0', '.', '0']
    | some binary => style.write binary.shortest)

end Decimal
end ReportBinding
