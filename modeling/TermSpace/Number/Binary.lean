/-!
# Floating-point numbers as exact fractions

A finite double is `significand · 2 ^ exponent`, with a sign.  Reading that off the bits, and finding the
double nearest to a fraction, are the two directions between the machine's numbers and exact
arithmetic; both are total functions on natural numbers.
-/

namespace TermSpace.Number

set_option autoImplicit false

/-- A finite double without its sign: `significand · 2 ^ exponent`. -/
structure Binary where
  significand : Nat
  exponent : Int
  /-- Whether the double below is only half as far away as the double above: true at powers of two. -/
  closeBelow : Bool

/-- What the bits of a double say. -/
inductive Reading where
  | finite (negative : Bool) (magnitude : Binary)
  | infinite (negative : Bool)
  | notANumber

/-- Read the bits of a double: a sign bit, eleven exponent bits, fifty-two fraction bits. -/
def read (value : Float) : Reading :=
  let bits := value.toBits.toNat
  let negative := bits / Nat.pow 2 63 == 1
  let biased : Nat := bits / Nat.pow 2 52 % Nat.pow 2 11
  let fraction := bits % Nat.pow 2 52
  if biased = Nat.pow 2 11 - 1 then
    if fraction = 0 then .infinite negative else .notANumber
  else if biased = 0 then .finite negative ⟨fraction, -1074, false⟩
  else .finite negative ⟨Nat.pow 2 52 + fraction, (biased : Int) - 1075, fraction == 0 && biased > 1⟩

/-- The whole number that a finite double is, if it is one. -/
def Binary.whole? (number : Binary) : Option Nat :=
  if 0 ≤ number.exponent then some (number.significand * Nat.pow 2 number.exponent.toNat)
  else
    let divisor := Nat.pow 2 (-number.exponent).toNat
    if number.significand % divisor = 0 then some (number.significand / divisor) else none

/-- The quotient rounded to the nearest whole number, a half going to the even neighbour. -/
def roundQuotient (numerator denominator : Nat) : Nat :=
  let quotient := numerator / denominator
  let twice := 2 * (numerator % denominator)
  if twice < denominator then quotient
  else if denominator < twice then quotient + 1
  else quotient + quotient % 2

/-- `numerator / denominator / 2 ^ exponent`, as a fraction. -/
def scaleDown (numerator denominator : Nat) (exponent : Int) : Nat × Nat :=
  if 0 ≤ exponent then (numerator, denominator * Nat.pow 2 exponent.toNat)
  else (numerator * Nat.pow 2 (-exponent).toNat, denominator)

/-- **Rounding.** The bits of the double nearest to a positive fraction, ties going to the even
significand and everything past the largest double to infinity.

The exponent is the one that leaves fifty-three bits before the point, but never below that of the
smallest double.  Exponent and significand add up to the bits because a significand that rounds up to
the next power of two carries into the exponent. -/
def nearestBits (numerator denominator : Nat) : Nat :=
  let estimate : Int := (numerator.log2 : Int) - denominator.log2 - 53
  let (above, below) := scaleDown numerator denominator estimate
  let fitting := if Nat.pow 2 53 ≤ above / below then estimate + 1 else estimate
  let exponent := max fitting (-1074)
  let (scaledAbove, scaledBelow) := scaleDown numerator denominator exponent
  let bits := (exponent + 1074).toNat * Nat.pow 2 52 + roundQuotient scaledAbove scaledBelow
  min bits ((Nat.pow 2 11 - 1) * Nat.pow 2 52)

/-- The double nearest to a fraction. -/
def nearest (negative : Bool) (numerator denominator : Nat) : Float :=
  let magnitude := if numerator = 0 then 0 else nearestBits numerator denominator
  Float.ofBits (UInt64.ofNat ((if negative then Nat.pow 2 63 else 0) + magnitude))

end TermSpace.Number
