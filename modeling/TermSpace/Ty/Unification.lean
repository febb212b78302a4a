import TermSpace.Ty.Error
import TermSpace.Ty.Subst

/-!
# Unification and constraints

There are two ways to make two types equal.  *Hindley-Milner* unification goes through the structure of
both, binds variables after an occurs check, and meets a quantified type with a fresh instance of it.
The *simple* way knows no structure: two types meet only if they are equal or one of them is a variable.

Constraints are solved in their order, each under the substitution of those before it.
-/

namespace TermSpace

set_option autoImplicit false

/-- The ways to unify types. -/
inductive Strategy where
  | hindleyMilner
  | simple
deriving DecidableEq

/-- The name of a strategy. -/
def Strategy.name : Strategy → String
  | .hindleyMilner => "hindley-milner"
  | .simple => "simple"

/-- The strategy of a name. -/
def Strategy.ofName? (name : String) : Option Strategy :=
  if name = "hindley-milner" then some .hindleyMilner
  else if name = "simple" then some .simple
  else none

/-- An extended substitution and the supply that is left; nothing if the types do not meet. -/
abbrev Unified := Option (Subst × Nat)

/-- Hindley-Milner unification, nested so deep at most. -/
def unifyWithin : (depth : Nat) → (first second : Ty) → Subst → (supply : Nat) → Unified
  | 0, _, _, _, _ => none
  | depth + 1, first, second, subst, supply =>
    let first := subst.apply first
    let second := subst.apply second
    if first = second then some (subst, supply)
    else
      match first, second with
      | .var id, other => (subst.bindVar? id other).map fun extended => (extended, supply)
      | other, .var id => (subst.bindVar? id other).map fun extended => (extended, supply)
      | .arrow source₁ target₁, .arrow source₂ target₂ => do
        let (extended, left) ← unifyWithin depth source₁ source₂ subst supply
        unifyWithin depth target₁ target₂ extended left
      | .either left₁ right₁, .either left₂ right₂ => do
        let (extended, left) ← unifyWithin depth left₁ left₂ subst supply
        unifyWithin depth right₁ right₂ extended left
      | .list element₁, .list element₂ => unifyWithin depth element₁ element₂ subst supply
      | .maybe element₁, .maybe element₂ => unifyWithin depth element₁ element₂ subst supply
      | .quantified id body, other =>
        let (instanceOf, left) := (Ty.quantified id body).instantiate supply
        unifyWithin depth instanceOf other subst left
      | other, .quantified id body =>
        let (instanceOf, left) := (Ty.quantified id body).instantiate supply
        unifyWithin depth instanceOf other subst left
      | _, _ => none

/-- How deep unification can nest.

Without quantifiers, types of height `h` with `v` free variables nest `h * 2 ^ v + 1` deep at most: a
step down takes one off the height, and a binding, of which there are `v`, at most doubles it.  Both `h` and
`v` go into the sizes. -/
def unificationDepth (first second : Ty) : Nat := Nat.pow 2 (first.size + second.size + 1)

namespace Strategy

/-- **Unification.** Extend a substitution so that it makes two types equal. -/
def unify (strategy : Strategy) (first second : Ty) (subst : Subst) (supply : Nat) : Unified :=
  let left := subst.apply first
  let right := subst.apply second
  match strategy with
  | .hindleyMilner => unifyWithin (unificationDepth left right) first second subst supply
  | .simple =>
    if left = right then some (subst, supply)
    else
      match left, right with
      | .var id, other => (subst.bindVar? id other).map fun extended => (extended, supply)
      | other, .var id => (subst.bindVar? id other).map fun extended => (extended, supply)
      | _, _ => none

end Strategy

/-! ## Constraints -/

/-- Two types that must be equal, and the term that asks for it. -/
structure Constraint where
  left : Ty
  right : Ty
  origin : Term

/-- The variable that one of two different types is, and the other type. -/
def variableSide? : (first second : Ty) → Option (Nat × Ty)
  | .var id, other => if other = .var id then none else some (id, other)
  | other, .var id => some (id, other)
  | _, _ => none

/-- What is wrong with a constraint that cannot hold. -/
def Constraint.explain (wanted : Constraint) (subst : Subst) : TypeError :=
  let left := subst.apply wanted.left
  let right := subst.apply wanted.right
  match variableSide? left right with
  | some (id, other) =>
    if other.occurs id then .occursCheck id other else .mismatch left right wanted.origin
  | none => .mismatch left right wanted.origin

/-- Solve constraints one after the other, starting from a substitution. -/
def Strategy.solveFrom (strategy : Strategy) :
    (subst : Subst) → (supply : Nat) → List Constraint → Except TypeError (Subst × Nat)
  | subst, supply, [] => .ok (subst, supply)
  | subst, supply, wanted :: rest =>
    match strategy.unify wanted.left wanted.right subst supply with
    | some (extended, left) => solveFrom strategy extended left rest
    | none => .error (wanted.explain subst)

/-- **Solving** constraints. -/
def Strategy.solve (strategy : Strategy) (constraints : List Constraint) (supply : Nat) :
    Except TypeError (Subst × Nat) :=
  strategy.solveFrom ∅ supply constraints

end TermSpace
