import TermSpace.Json.Basic

/-!
# Numbers in JSON

A JSON number is an optional minus sign, a whole part without needless leading zeros, an optional fraction
and an optional exponent.

A number without fraction and exponent that fits into sixty-four bits is a whole number.  Every other
one is a double, which is found fast rather than exactly: as many leading digits as fit into sixty-four
bits make up a significand, which is multiplied or divided by a power of ten, with a rounding at each of
these steps.
-/

namespace TermSpace.Json

set_option autoImplicit false

/-- The parts of a JSON number. -/
structure Numeral where
  negative : Bool
  whole : List Char
  /-- The digits after the point, if there is a point. -/
  fraction? : Option (List Char)
  /-- The exponent, if there is one. -/
  exponent? : Option Int

/-- Read the parts of a number that takes up the whole text. -/
def Numeral.read? (text : List Char) : Option Numeral :=
  let (negative, unsigned) :=
    match text with
    | '-' :: rest => (true, rest)
    | rest => (false, rest)
  let whole := unsigned.takeWhile Char.isDigit
  let afterWhole := unsigned.dropWhile Char.isDigit
  let (fraction?, afterFraction) :=
    match afterWhole with
    | '.' :: rest => (some (rest.takeWhile Char.isDigit), rest.dropWhile Char.isDigit)
    | rest => (none, rest)
  if whole = [] ∨ (whole.head? = some '0' ∧ whole.length ≠ 1) ∨ fraction? = some [] then none
  else if afterFraction = [] then some ⟨negative, whole, fraction?, none⟩
  else (Number.readExponent? afterFraction).map fun exponent =>
    ⟨negative, whole, fraction?, some exponent⟩

/-- The largest number of sixty-four bits. -/
def maxWord : Nat := Nat.pow 2 64 - 1

/-- The whole number that a number is, if it is written without fraction and exponent and fits into
sixty-four bits, with a sign if it is negative.  Negative zero is a double. -/
def Numeral.toInt? (numeral : Numeral) : Option Int :=
  let size := Number.digitsValue 0 numeral.whole
  if numeral.fraction?.isSome || numeral.exponent?.isSome then none
  else if numeral.negative then
    if 0 < size ∧ size ≤ Nat.pow 2 63 then some (-(size : Int)) else none
  else if size ≤ maxWord then some size else none

/-- Take in whole digits as long as the significand fits; each later one only counts. -/
def takeWhole : (significand exponent : Nat) → List Char → Nat × Nat
  | significand, exponent, [] => (significand, exponent)
  | significand, exponent, digit :: rest =>
    let longer := Number.digitsValue significand [digit]
    if exponent = 0 ∧ longer ≤ maxWord then takeWhole longer 0 rest
    else takeWhole significand (exponent + 1) rest

/-- Take in fraction digits as long as the significand fits, and drop the rest. -/
def takeFraction : (significand : Nat) → (exponent : Int) → List Char → Nat × Int
  | significand, exponent, [] => (significand, exponent)
  | significand, exponent, digit :: rest =>
    let longer := Number.digitsValue significand [digit]
    if longer ≤ maxWord then takeFraction longer (exponent - 1) rest else (significand, exponent)

/-- The power of ten nearest to `10 ^ exponent`. -/
def powerOfTen (exponent : Nat) : Float := Number.nearest false (Nat.pow 10 exponent) 1

/-- Divide by powers of ten that are doubles, the largest of them as long as the exponent is beyond it. -/
def scaleDownBy : (attempts : Nat) → Float → (exponent : Nat) → Float
  | 0, value, _ => value
  | attempts + 1, value, exponent =>
    if exponent ≤ 308 then value / powerOfTen exponent
    else if value == 0 then value
    else scaleDownBy attempts (value / powerOfTen 308) (exponent - 308)

/-- Scale a significand; `none` for what lies beyond all doubles.  Three divisions by the largest power
make zero of every significand. -/
def scale? (significand : Nat) (exponent : Int) : Option Float :=
  let value := Number.nearest false significand 1
  if 0 ≤ exponent then
    if exponent ≤ 308 then
      let scaled := value * powerOfTen exponent.toNat
      if scaled.isInf then none else some scaled
    else if significand = 0 then some value else none
  else some (scaleDownBy 4 value (-exponent).toNat)

/-- The double that a number is. -/
def Numeral.toFloat? (numeral : Numeral) : Option Float :=
  let (wholePart, dropped) := takeWhole 0 0 numeral.whole
  let (significand, start) := takeFraction wholePart dropped (numeral.fraction?.getD [])
  (scale? significand (start + numeral.exponent?.getD 0)).map fun value =>
    if numeral.negative then -value else value

/-- The whole number that a value is. -/
def toInt? : Json → Option Int
  | .number written => Numeral.read? written.toList >>= Numeral.toInt?
  | _ => none

/-- The natural number that a value is. -/
def toNat? (value : Json) : Option Nat :=
  match value.toInt? with
  | some (.ofNat natural) => some natural
  | _ => none

/-- The double that a value is; a whole number is the double nearest to it. -/
def toFloat? : Json → Option Float
  | .number written => do
    let numeral ← Numeral.read? written.toList
    match numeral.toInt? with
    | some integer => return Number.nearest (integer < 0) integer.natAbs 1
    | none => numeral.toFloat?
  | _ => none

/-- The content of a text. -/
def toText? : Json → Option String
  | .text content => some content
  | _ => none

end TermSpace.Json
