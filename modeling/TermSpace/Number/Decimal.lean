import TermSpace.Number.Binary

/-!
# Decimal numerals

A numeral is an optional sign, decimal digits with at most one point among them and at least one digit
in all, and an optional exponent: `e` or `E`, an optional sign, one or more digits.  Its value is the
double nearest to the number it writes.
-/

namespace TermSpace.Number

set_option autoImplicit false

/-- The number `significand · 10 ^ exponent`. -/
structure Decimal where
  significand : Nat
  exponent : Int

/-- The number that a row of digits writes, after the digits already read. -/
def digitsValue (before : Nat) (digits : List Char) : Nat :=
  digits.foldl (fun value digit => 10 * value + (digit.toNat - '0'.toNat)) before

/-- Split a sign off. -/
def splitSign : List Char → Bool × List Char
  | '-' :: rest => (true, rest)
  | '+' :: rest => (false, rest)
  | text => (false, text)

/-- Read an exponent that takes up the whole text: nothing, or a marker with a signed number. -/
def readExponent? : List Char → Option Int
  | [] => some 0
  | marker :: rest =>
    if marker = 'e' ∨ marker = 'E' then
      let (negative, digits) := splitSign rest
      if digits ≠ [] ∧ digits.all Char.isDigit then
        let size : Int := digitsValue 0 digits
        some (if negative then -size else size)
      else none
    else none

/-- Read a numeral without sign that takes up the whole text. -/
def Decimal.read? (text : List Char) : Option Decimal :=
  let whole := text.takeWhile Char.isDigit
  let afterWhole := text.dropWhile Char.isDigit
  let (fraction, afterFraction) :=
    match afterWhole with
    | '.' :: rest => (rest.takeWhile Char.isDigit, rest.dropWhile Char.isDigit)
    | rest => ([], rest)
  if whole = [] ∧ fraction = [] then none
  else (readExponent? afterFraction).map fun exponent =>
    ⟨digitsValue 0 (whole ++ fraction), exponent - fraction.length⟩

/-- The number of decimal digits of a numeral's significand. -/
def Decimal.length (number : Decimal) : Nat := (Nat.toDigits 10 number.significand).length

/-- **The value of a numeral** is the nearest double.  Outside of `10 ^ -400` to `10 ^ 400` that is zero or
infinity whatever the digits are, so no large power is computed there. -/
def Decimal.toFloat (negative : Bool) (number : Decimal) : Float :=
  let leading := number.length + number.exponent
  if number.significand = 0 ∨ leading < -400 then nearest negative 0 1
  else if 400 < leading then nearest negative (Nat.pow 10 400) 1
  else if 0 ≤ number.exponent then
    nearest negative (number.significand * Nat.pow 10 number.exponent.toNat) 1
  else nearest negative number.significand (Nat.pow 10 (-number.exponent).toNat)

/-- Read a signed numeral that takes up the whole text. -/
def readNumeral? (text : List Char) : Option Float :=
  let (negative, unsigned) := splitSign text
  (Decimal.read? unsigned).map (·.toFloat negative)

end TermSpace.Number
