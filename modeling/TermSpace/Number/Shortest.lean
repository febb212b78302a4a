import TermSpace.Number.Decimal

/-!
# The shortest numeral of a double

Every double is the nearest one to an interval of real numbers around it, whose ends belong to it
exactly if its significand is even.  The shortest numeral of a double is the one with the fewest digits
in that interval, and of those the one nearest to the double.

It is found by going from coarse grids of decimal fractions to finer ones.  If any point of a grid lies
in the interval then one of the two neighbours of the double on that grid does, so only those are
tried.
-/

namespace TermSpace.Number

set_option autoImplicit false

/-- What is written where two shortest numerals are equally near. -/
inductive Tie where
  /-- The larger one. -/
  | up
  /-- The one with the even last digit. -/
  | even

/-- The multiple of `10 ^ grid` nearest to a positive double among those that read back as the double, if
there is one.

All quantities are whole multiples of one unit: a quarter of the double's last binary place is
`quarter` units, a step of the grid is `step` units. -/
def nearestOnGrid (tie : Tie) (number : Binary) (grid : Int) : Option Nat :=
  let place := number.exponent - 2
  let quarter := Nat.pow 2 place.toNat * Nat.pow 10 (-grid).toNat
  let step := Nat.pow 10 grid.toNat * Nat.pow 2 (-place).toNat
  let value := 4 * number.significand * quarter
  let top := value + 2 * quarter
  let bottom := value - (if number.closeBelow then 1 else 2) * quarter
  let inside (point : Nat) : Bool :=
    if number.significand % 2 = 0 then bottom ≤ point && point ≤ top
    else bottom < point && point < top
  let below := value / step
  let above := below + 1
  match inside (below * step), inside (above * step) with
  | false, false => none
  | true, false => some below
  | false, true => some above
  | true, true =>
    let twice := 2 * (value - below * step)
    if twice < step then some below
    else if step < twice then some above
    else match tie with
      | .up => some above
      | .even => some (below + below % 2)

/-- Try grids from `10 ^ grid` on, each ten times finer than the one before. -/
def searchGrids (tie : Tie) (number : Binary) : (attempts : Nat) → (grid : Int) → Decimal
  | 0, grid => ⟨0, grid⟩
  | attempts + 1, grid =>
    match nearestOnGrid tie number grid with
    | some point => ⟨point, grid⟩
    | none => searchGrids tie number attempts (grid - 1)

/-- **The shortest numeral of a positive double.**  The first grid is coarser than the double is large, and
seventeen digits always suffice, so that the attempts do not run out. -/
def shortest (tie : Tie) (number : Binary) : Decimal :=
  let magnitude : Int := number.significand.log2 + number.exponent
  searchGrids tie number 24 (magnitude * 30103 / 100000 + 2)

/-! ## Writing a numeral -/

/-- How numbers are written. -/
structure Style where
  /-- Which of two equally near numerals is taken. -/
  tie : Tie
  /-- Whether a number is written without an exponent if its point stands after so many digits. -/
  positional : Int → Bool
  /-- What follows the digits of a whole number. -/
  wholeMark : String

/-- Digits with a point after the first `point` of them, or zeros where there are no digits. -/
def placePoint (wholeMark : String) (digits : List Char) (point : Int) : String :=
  if (digits.length : Int) ≤ point then
    String.ofList (digits ++ List.replicate (point.toNat - digits.length) '0') ++ wholeMark
  else if 0 < point then
    String.ofList (digits.take point.toNat ++ '.' :: digits.drop point.toNat)
  else "0." ++ String.ofList (List.replicate (-point).toNat '0' ++ digits)

/-- Digits with a point after the first, if there are more, and an exponent, which always has a sign. -/
def placeExponent (digits : List Char) (point : Int) : String :=
  String.ofList (digits.take 1) ++
    (if digits.length ≤ 1 then "" else "." ++ String.ofList (digits.drop 1)) ++
    (if 0 < point then "e+" else "e") ++ toString (point - 1)

/-- A positive decimal number. -/
def Style.writeDecimal (style : Style) (number : Decimal) : String :=
  let digits := Nat.toDigits 10 number.significand
  let point := digits.length + number.exponent
  if style.positional point then placePoint style.wholeMark digits point
  else placeExponent digits point

/-- A double: the shortest numeral with a minus sign for negative numbers, negative zero being one. -/
def Style.write (style : Style) (value : Float) : String :=
  match read value with
  | .notANumber => "NaN"
  | .infinite negative => if negative then "-inf" else "inf"
  | .finite negative magnitude =>
    (if negative then "-" else "") ++
      (if magnitude.significand = 0 then "0" ++ style.wholeMark
      else style.writeDecimal (shortest style.tie magnitude))

/-- Plain numbers are written without exponent however long they get, and whole ones without point. -/
def plain : Style := ⟨.up, fun _ => true, ""⟩

end TermSpace.Number
