import TermSpace.Dict
import TermSpace.Ty.Error

/-!
# Type expressions

Types are written as terms: base names, variables, `(-> A B C)` which associates to the right,
`(List A)`, `(Maybe A)`, `(Either A B)`, `(Vector 3)` and `(forall $a A)`.

A variable name stands for one type variable throughout an expression, except that a quantifier gives
its name a variable of its own for the length of its body.
-/

namespace TermSpace.Ty

set_option autoImplicit false

/-- The type variables that names stand for, and the supply of fresh ones. -/
structure Scope where
  names : Dict String Nat
  supply : Nat

/-- The variable of a name, a fresh one if the name is new. -/
def Scope.variable (scope : Scope) (name : String) : Nat × Scope :=
  match scope.names.get? name with
  | some id => (id, scope)
  | none => (scope.supply, ⟨scope.names.insert name scope.supply, scope.supply + 1⟩)

/-- Let a name stand for a fresh variable. -/
def Scope.bind (scope : Scope) (name : String) : Nat × Scope :=
  (scope.supply, ⟨scope.names.insert name scope.supply, scope.supply + 1⟩)

/-- Let a name stand for what it stood for in an outer scope. -/
def Scope.restore (scope outer : Scope) (name : String) : Scope :=
  match outer.names.get? name with
  | some id => { scope with names := scope.names.insert name id }
  | none => { scope with names := scope.names.erase name }

/-- The natural number that a term spells; numbers past sixty-four bits count as the largest one. -/
def lengthOf? (term : Term) : Option Nat := do
  let value ← term.number?
  match Number.read value with
  | .finite negative magnitude => do
    let whole ← magnitude.whole?
    if negative ∧ whole ≠ 0 then none else some (min whole (Nat.pow 2 64 - 1))
  | _ => none

mutual

/-- Read a type expression. -/
def readExpression (scope : Scope) : Term → Except TypeError (Ty × Scope)
  | .atom name =>
    if Term.isVariableName name then
      let (id, scope) := scope.variable name
      .ok (.var id, scope)
    else .ok (.base name, scope)
  | .compound operator components =>
    let malformed := TypeError.malformed (.compound operator components)
    if operator = "->" then
      match components with
      | first :: second :: rest => readArrow scope (first :: second :: rest)
      | _ => .error malformed
    else if operator = Term.applyOperator then
      match components with
      | [head, .compound _ [argument]] =>
        if head.name = "List" then do
          let (element, scope) ← readExpression scope argument
          return (.list element, scope)
        else if head.name = "Maybe" then do
          let (element, scope) ← readExpression scope argument
          return (.maybe element, scope)
        else if head.name = "Vector" then
          match lengthOf? argument with
          | some length => .ok (.vector length, scope)
          | none => .error malformed
        else .error malformed
      | [head, .compound _ [first, second]] =>
        if head.name = "Either" then do
          let (left, scope) ← readExpression scope first
          let (right, scope) ← readExpression scope second
          return (.either left right, scope)
        else if head.name = "forall" ∧ first.isVariable then do
          let (id, inner) := scope.bind first.name
          let (body, after) ← readExpression inner second
          return (.quantified id body, after.restore scope first.name)
        else .error malformed
      | _ => .error malformed
    else .error malformed

/-- Read the parts of a function type, the last one first. -/
def readArrow (scope : Scope) : List Term → Except TypeError (Ty × Scope)
  | [] => .ok (default, scope)
  | [last] => readExpression scope last
  | first :: second :: rest => do
    let (target, scope) ← readArrow scope (second :: rest)
    let (source, scope) ← readExpression scope first
    return (.arrow source target, scope)

end

/-- **The type that a term writes,** and the supply that is left. -/
def ofTerm (term : Term) (supply : Nat) : Except TypeError (Ty × Nat) := do
  let (ty, scope) ← readExpression ⟨∅, supply⟩ term
  return (ty, scope.supply)

end TermSpace.Ty
