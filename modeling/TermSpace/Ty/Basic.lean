/-!
# Types

A type is a base name, a function type, one of the type formers `List`, `Maybe`, `Either` and `Vector`, a
variable, or quantified over a variable.  Variables are numbers.

Fresh variables come from a *supply*, the number from which on no variable is in use.  What draws on the
supply returns the supply that is left.
-/

namespace TermSpace

set_option autoImplicit false

/-- A type. -/
inductive Ty where
  | base (name : String)
  | arrow (source target : Ty)
  | list (element : Ty)
  | maybe (element : Ty)
  | either (left right : Ty)
  | vector (length : Nat)
  | var (id : Nat)
  | quantified (id : Nat) (body : Ty)
deriving DecidableEq

namespace Ty

instance : Inhabited Ty := ⟨.base ""⟩

/-- The type of numbers. -/
def number : Ty := .base "Number"

/-- The type of text literals. -/
def string : Ty := .base "String"

/-- The type of truth values. -/
def bool : Ty := .base "Bool"

/-- The type of everything about which nothing better is known. -/
def atom : Ty := .base "Atom"

/-- A type as text. -/
def render : Ty → String
  | .base name => name
  | .arrow source target => "(-> " ++ source.render ++ " " ++ target.render ++ ")"
  | .list element => "(List " ++ element.render ++ ")"
  | .maybe element => "(Maybe " ++ element.render ++ ")"
  | .either left right => "(Either " ++ left.render ++ " " ++ right.render ++ ")"
  | .vector length => "(Vector " ++ toString length ++ ")"
  | .var id => "'t" ++ toString id
  | .quantified id body => "(forall 't" ++ toString id ++ " " ++ body.render ++ ")"

/-- The number of nodes. -/
def size : Ty → Nat
  | .base _ => 1
  | .vector _ => 1
  | .var _ => 1
  | .arrow source target => source.size + target.size + 1
  | .either left right => left.size + right.size + 1
  | .list element => element.size + 1
  | .maybe element => element.size + 1
  | .quantified _ body => body.size + 1

/-- Whether a variable occurs free. -/
def occurs (id : Nat) : Ty → Bool
  | .var other => other = id
  | .base _ => false
  | .vector _ => false
  | .arrow source target => source.occurs id || target.occurs id
  | .either left right => left.occurs id || right.occurs id
  | .list element => element.occurs id
  | .maybe element => element.occurs id
  | .quantified bound body => bound ≠ id && body.occurs id

/-- The free occurrences of variables from left to right, inside quantifiers over `bound`. -/
def freeOccurrences (bound : List Nat) : Ty → List Nat
  | .var id => if id ∈ bound then [] else [id]
  | .base _ => []
  | .vector _ => []
  | .arrow source target => source.freeOccurrences bound ++ target.freeOccurrences bound
  | .either left right => left.freeOccurrences bound ++ right.freeOccurrences bound
  | .list element => element.freeOccurrences bound
  | .maybe element => element.freeOccurrences bound
  | .quantified id body => body.freeOccurrences (id :: bound)

/-- The free variables, each at its first occurrence. -/
def freeVars (ty : Ty) : List Nat := (ty.freeOccurrences []).eraseDups

/-- **Generalization** quantifies over all free variables, the first of them outermost. -/
def generalize (ty : Ty) : Ty := ty.freeVars.foldr .quantified ty

/-- Rename free variables. -/
def rename (names : Nat → Option Nat) : Ty → Ty
  | .var id => .var ((names id).getD id)
  | .base name => .base name
  | .vector length => .vector length
  | .arrow source target => .arrow (source.rename names) (target.rename names)
  | .either left right => .either (left.rename names) (right.rename names)
  | .list element => .list (element.rename names)
  | .maybe element => .maybe (element.rename names)
  | .quantified id body =>
    .quantified id (body.rename fun other => if other = id then none else names other)

/-- Rename one free variable. -/
def renameOne (id name : Nat) (ty : Ty) : Ty := ty.rename fun other => if other = id then some name else none

/-- The number of quantifiers in front. -/
def leading : Ty → Nat
  | .quantified _ body => body.leading + 1
  | _ => 0

/-- Strip so many quantifiers in front, one after the other, and put a fresh variable for that of each. -/
def strip : (count : Nat) → (ty : Ty) → (supply : Nat) → Ty × Nat
  | count + 1, .quantified id body, supply => strip count (body.renameOne id supply) (supply + 1)
  | _, ty, supply => (ty, supply)

/-- **Instantiation** strips all quantifiers in front.  A quantifier over a variable that was drawn for one
before it captures that. -/
def instantiate (ty : Ty) (supply : Nat) : Ty × Nat := ty.strip ty.leading supply

end Ty

end TermSpace
