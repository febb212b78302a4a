import TermSpace.Number.Decimal
import TermSpace.Toml.Basic

/-!
# Numbers, words and moments in TOML

Digits of a number may be set apart by single underscores.  Whole numbers have sixty-four bits with a
sign, and are written in decimal or, without a sign, in base sixteen, eight or two.  Moments are dates of
the calendar, times of the day, or both, then perhaps with an offset.
-/

namespace TermSpace.Toml

set_option autoImplicit false

/-- Digits without the underscores that set them apart, each of which stands between two digits. -/
def joinDigits? (isDigit : Char → Bool) : List Char → Option (List Char)
  | [] => none
  | [digit] => if isDigit digit then some [digit] else none
  | digit :: '_' :: rest =>
    if isDigit digit then (joinDigits? isDigit rest).map (digit :: ·) else none
  | digit :: rest => if isDigit digit then (joinDigits? isDigit rest).map (digit :: ·) else none

/-- Decimal digits without needless leading zeros. -/
def wholeDigits? (text : List Char) : Option (List Char) :=
  match joinDigits? Char.isDigit text with
  | some ('0' :: _ :: _) => none
  | digits => digits

/-- The value of a digit in a base up to sixteen. -/
def digitValue (digit : Char) : Nat :=
  if digit.isDigit then digit.toNat - '0'.toNat
  else if 'a' ≤ digit ∧ digit ≤ 'f' then digit.toNat - 'a'.toNat + 10
  else if 'A' ≤ digit ∧ digit ≤ 'F' then digit.toNat - 'A'.toNat + 10
  else 16

/-- The number that digits write in a base. -/
def readBase? (base : Nat) (text : List Char) : Option Int :=
  (joinDigits? (fun digit => digitValue digit < base) text).map fun digits =>
    Int.ofNat (digits.foldl (fun value digit => base * value + digitValue digit) 0)

/-- A whole number. -/
def integer? (word : List Char) : Option Int := do
  let value ←
    match word with
    | '0' :: 'x' :: digits => readBase? 16 digits
    | '0' :: 'o' :: digits => readBase? 8 digits
    | '0' :: 'b' :: digits => readBase? 2 digits
    | _ =>
      let (negative, unsigned) := Number.splitSign word
      (wholeDigits? unsigned).map fun digits =>
        let size : Int := Number.digitsValue 0 digits
        if negative then -size else size
  if -(Nat.pow 2 63 : Int) ≤ value ∧ value < Nat.pow 2 63 then some value else none

/-- Whether a text is a number with a fraction, an exponent or both, or one of the words for what is no
finite number. -/
def isReal (word : List Char) : Bool :=
  let (_, unsigned) := Number.splitSign word
  let isExponentMark (character : Char) := character = 'e' || character = 'E'
  let mantissa := unsigned.takeWhile fun character => !isExponentMark character
  let fromMark := unsigned.dropWhile fun character => !isExponentMark character
  let whole := mantissa.takeWhile (· ≠ '.')
  let fromPoint := mantissa.dropWhile (· ≠ '.')
  let fractionFits := fromPoint = [] || (joinDigits? Char.isDigit (fromPoint.drop 1)).isSome
  let exponentFits :=
    fromMark = [] || (joinDigits? Char.isDigit (Number.splitSign (fromMark.drop 1)).2).isSome
  unsigned = ['i', 'n', 'f'] || unsigned = ['n', 'a', 'n'] ||
    ((wholeDigits? whole).isSome && fractionFits && exponentFits &&
      (fromPoint ≠ [] || fromMark ≠ []))

/-- The number that two digits write. -/
def twoDigits? (first second : Char) : Option Nat :=
  if first.isDigit && second.isDigit then some (Number.digitsValue 0 [first, second]) else none

/-- The number of days of a month. -/
def daysIn (year month : Nat) : Nat :=
  if month = 2 then
    if year % 4 = 0 ∧ (year % 100 ≠ 0 ∨ year % 400 = 0) then 29 else 28
  else if [4, 6, 9, 11].contains month then 30 else 31

/-- Take a date off the front of a text. -/
def takeDate? : List Char → Option (List Char)
  | y₁ :: y₂ :: y₃ :: y₄ :: '-' :: m₁ :: m₂ :: '-' :: d₁ :: d₂ :: rest => do
    let century ← twoDigits? y₁ y₂
    let year ← twoDigits? y₃ y₄
    let month ← twoDigits? m₁ m₂
    let day ← twoDigits? d₁ d₂
    if 1 ≤ month ∧ month ≤ 12 ∧ 1 ≤ day ∧ day ≤ daysIn (100 * century + year) month then some rest
    else none
  | _ => none

/-- Take a time of the day off the front of a text. -/
def takeTime? : List Char → Option (List Char)
  | h₁ :: h₂ :: ':' :: m₁ :: m₂ :: ':' :: s₁ :: s₂ :: rest => do
    let hour ← twoDigits? h₁ h₂
    let minute ← twoDigits? m₁ m₂
    let second ← twoDigits? s₁ s₂
    if hour ≤ 23 ∧ minute ≤ 59 ∧ second ≤ 60 then
      match rest with
      | '.' :: fraction =>
        if (fraction.head?.map Char.isDigit).getD false then some (fraction.dropWhile Char.isDigit)
        else none
      | rest => some rest
    else none
  | _ => none

/-- Whether a text is an offset from universal time, or nothing. -/
def isOffset : List Char → Bool
  | [] => true
  | ['Z'] => true
  | ['z'] => true
  | [sign, h₁, h₂, ':', m₁, m₂] =>
    (sign = '+' || sign = '-') &&
      match twoDigits? h₁ h₂, twoDigits? m₁ m₂ with
      | some hours, some minutes => hours ≤ 23 && minutes ≤ 59
      | _, _ => false
  | _ => false

/-- Whether a text is a date, a time or both. -/
def isMoment (word : List Char) : Bool :=
  match takeDate? word with
  | none => takeTime? word = some []
  | some [] => true
  | some (separator :: time) =>
    (separator = 'T' || separator = 't' || separator = ' ') &&
      match takeTime? time with
      | some rest => isOffset rest
      | none => false

/-- Whether a number lies beyond all doubles.  Only positive numbers are held to that. -/
def overflows (word : List Char) : Bool :=
  match Number.readNumeral? (word.filter (· ≠ '_')) with
  | some value => value.isInf && 0 < value
  | none => false

/-- The value of a word. -/
def ofWord? (word : List Char) : Option Toml :=
  if word = ['t', 'r', 'u', 'e'] then some (.boolean true)
  else if word = ['f', 'a', 'l', 's', 'e'] then some (.boolean false)
  else
    match integer? word with
    | some value => some (.integer value)
    | none =>
      if isReal word then
        if overflows word then none else some (.real (String.ofList word))
      else if isMoment word then some (.moment (String.ofList word))
      else none

end TermSpace.Toml
