import TermSpace.Number.Shortest
import TermSpace.Term.Basic

/-!
# Numeric atoms

An atom is numeric if its name is a numeral of a finite number.  A name that starts like a word is never
one, so that `inf` and `nan` are symbols.
-/

namespace TermSpace.Term

set_option autoImplicit false

/-- Whether a name may be a numeral, by its first character. -/
def startsNumeral (character : Char) : Bool :=
  character.isDigit || character == '-' || character == '+' || character == '.'

/-- The number that a name spells, if it spells a finite one. -/
def numberOfName? (name : String) : Option Float :=
  match name.toList with
  | [] => none
  | first :: rest =>
    if startsNumeral first then (Number.readNumeral? (first :: rest)).filter Float.isFinite else none

/-- The number that an atom spells. -/
def number? : Term → Option Float
  | .atom name => numberOfName? name
  | .compound _ _ => none

/-- The name that spells a number: its plain numeral, and `0` for zero of either sign. -/
def nameOfNumber (value : Float) : String :=
  if value == 0 then "0" else Number.plain.write value

/-- The numeric atom of a number. -/
def number (value : Float) : Term := .atom (nameOfNumber value)

end TermSpace.Term
