import TermSpace.Ty.Expression
import TermSpace.Ty.Unification

/-!
# Constraints of a term

The type of a term follows from its structure, up to constraints that are collected on the way:

* a variable has one type in its scope, unknown at first;
* a literal has the type of its kind, a declared name an instance of its declaration, and any other
  name the type `Atom`;
* the head of an application has a function type from the type of the argument node to the type of the
  application;
* a product has the type of its first component, though all components are gone through;
* both sides of an equation have one type, and the equation is a truth value;
* an abstraction has the function type from its parameter to its body;
* an annotated term has the type of the annotation;
* everything else is an `Atom`, and nothing is asked of its parts.
-/

namespace TermSpace.Inference

set_option autoImplicit false

/-- What has been collected. -/
structure Collected where
  /-- The supply of type variables. -/
  supply : Nat
  /-- The types of the variables in scope. -/
  context : Dict String Ty
  /-- The type that each variable got at first. -/
  seen : Dict String Ty
  /-- The constraints, last first. -/
  constraints : List Constraint

namespace Collected

/-- Nothing collected yet. -/
def start (supply : Nat) : Collected := ⟨supply, ∅, ∅, []⟩

/-- Add a constraint. -/
def require (state : Collected) (left right : Ty) (origin : Term) : Collected :=
  { state with constraints := ⟨left, right, origin⟩ :: state.constraints }

/-- A fresh type. -/
def fresh (state : Collected) : Ty × Collected :=
  (.var state.supply, { state with supply := state.supply + 1 })

/-- Give a variable a type in its scope, and note it if it is the first one. -/
def enter (state : Collected) (name : String) (ty : Ty) : Collected :=
  { state with
    context := state.context.insert name ty
    seen := if state.seen.contains name then state.seen else state.seen.insert name ty }

/-- Leave the scope of a variable for an outer one. -/
def leave (state : Collected) (outer : Dict String Ty) (name : String) : Collected :=
  match outer.get? name with
  | some ty => { state with context := state.context.insert name ty }
  | none => { state with context := state.context.erase name }

/-- The type of a variable, which gets a fresh one if it is not in scope. -/
def variableTy (state : Collected) (name : String) : Ty × Collected :=
  match state.context.get? name with
  | some ty => (ty, state)
  | none =>
    let (ty, state) := state.fresh
    (ty, state.enter name ty)

/-- The type of an atom that is no variable. -/
def literalTy (state : Collected) (declarations : Dict String Ty) (name : String) : Ty × Collected :=
  if (Term.numberOfName? name).isSome then (.number, state)
  else if Term.isTextLiteralName name then (.string, state)
  else if Term.truthLiterals.contains name then (.bool, state)
  else
    match declarations.get? name with
    | some ty =>
      let (fresh, supply) := ty.instantiate state.supply
      (fresh, { state with supply })
    | none => (.atom, state)

end Collected

/-- The operators of equations. -/
def isEquation (operator : String) : Bool := operator = "=" || operator = "=="

/-- The operators of abstractions. -/
def isAbstraction (operator : String) : Bool := operator = "λ" || operator = "lambda"

mutual

/-- The type of a term, and its constraints. -/
def collect (declarations : Dict String Ty) (state : Collected) :
    Term → Except TypeError (Ty × Collected)
  | .atom name =>
    if Term.isVariableName name then .ok (state.variableTy name)
    else .ok (state.literalTy declarations name)
  | .compound operator components =>
    if operator = Term.applyOperator then
      match components with
      | [head, arguments] => do
        let (headTy, state) ← collect declarations state head
        let (argumentsTy, state) ← collect declarations state arguments
        let (result, state) := state.fresh
        return (result,
          state.require headTy (.arrow argumentsTy result) (.compound operator [head, arguments]))
      | _ => .ok (.atom, state)
    else if operator = Term.productOperator then
      match components with
      | first :: rest => do
        let (ty, state) ← collect declarations state first
        let state ← collectAll declarations state rest
        return (ty, state)
      | [] => .ok (.atom, state)
    else if isEquation operator then
      match components with
      | [left, right] => do
        let (leftTy, state) ← collect declarations state left
        let (rightTy, state) ← collect declarations state right
        return (.bool, state.require leftTy rightTy (.compound operator [left, right]))
      | _ => .ok (.atom, state)
    else if isAbstraction operator then
      match components with
      | [parameter, body] =>
        if parameter.isVariable then do
          let (parameterTy, inner) := state.fresh
          let inner := inner.enter parameter.name parameterTy
          let (bodyTy, after) ← collect declarations inner body
          return (.arrow parameterTy bodyTy, after.leave state.context parameter.name)
        else .ok (.atom, state)
      | _ => .ok (.atom, state)
    else if operator = ":" then
      match components with
      | [subject, annotation] => do
        let (declared, supply) ← Ty.ofTerm annotation state.supply
        let (actual, state) ← collect declarations { state with supply } subject
        return (declared,
          state.require declared actual (.compound operator [subject, annotation]))
      | _ => .ok (.atom, state)
    else .ok (.atom, state)

/-- The constraints of terms from left to right. -/
def collectAll (declarations : Dict String Ty) (state : Collected) :
    List Term → Except TypeError Collected
  | [] => .ok state
  | component :: rest => do
    let (_, state) ← collect declarations state component
    collectAll declarations state rest

end

end TermSpace.Inference
