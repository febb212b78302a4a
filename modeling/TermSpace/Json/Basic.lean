import TermSpace.Number.Shortest

/-!
# JSON values

A value keeps what its text says: the members of an object stand in their order, with repetitions, and a
number is kept in its written form, so that it can be read as a whole number or as a double, whichever
is asked for.
-/

namespace TermSpace

set_option autoImplicit false

/-- A JSON value. -/
inductive Json where
  | null
  | boolean (value : Bool)
  /-- A number in its written form. -/
  | number (written : String)
  | text (content : String)
  | array (elements : List Json)
  | object (members : List (String × Json))
  /-- What is well formed but has no content, so that it can only be passed over: a text with half a surrogate
  pair in it, or an object with such a text among its names. -/
  | unreadable

namespace Json

instance : Inhabited Json := ⟨.null⟩

/-- Numbers in JSON keep a point or an exponent, by which doubles are told from whole numbers; those with
more than sixteen digits before the point, or more than four zeros after it, have an exponent. -/
def numberStyle : Number.Style := ⟨.even, fun point => -5 < point && point ≤ 16, ".0"⟩

/-- The value of a double.  There is no number for infinities and NaN. -/
def ofFloat (value : Float) : Json :=
  if value.isFinite then .number (numberStyle.write value) else .null

/-- The value of a whole number. -/
def ofInt (value : Int) : Json := .number (toString value)

/-- The value of a natural number. -/
def ofNat (value : Nat) : Json := .number (toString value)

/-- An optional value, with `null` for nothing. -/
def ofOption : Option Json → Json
  | none => .null
  | some value => value

/-- **Fields.** The value of the only member of a name: the outer `none` is for a name that occurs more than
once, the inner one for a name that does not occur. -/
def field? (members : List (String × Json)) (name : String) : Option (Option Json) :=
  match members.filter fun entry => entry.1 = name with
  | [] => some none
  | [entry] => some (some entry.2)
  | _ => none

/-- How many containers may still be entered: as many as one likes for `none`. -/
abbrev DepthLimit := Option Nat

/-- Texts nest at most a hundred and twenty-seven containers in what is read of them. -/
def textDepthLimit : DepthLimit := some 128

/-- Enter a container. -/
def DepthLimit.enter : DepthLimit → Option DepthLimit
  | none => some none
  | some (remaining + 2) => some (some (remaining + 1))
  | some _ => none

end Json

end TermSpace
