import TermSpace.Reduction.Step

/-!
# Normalization

Normalization reduces every part of a term, innermost first and from left to right, so that arguments
are normal before the node that uses them is tried.  All steps draw on one budget.

A node whose components are normal is *settled*: steps are applied to it, and after each step the
components of the result are normalized, until nothing applies.  When the step was a template rule, the
terms that its bindings put into the result are parts of normal components; they are normal already and
are not gone through again.

The recursion is on the number of steps that may still come and, for a given number, on the term.
Every step that settling applies is one less for the parts of its result.
-/

namespace TermSpace.Reducer

set_option autoImplicit false

/-- A term, and the number of steps spent so far; or an error. -/
abbrev Budgeted := Except ReduceError (Term × Nat)

/-- Components, and the number of steps spent so far; or an error. -/
abbrev BudgetedAll := Except ReduceError (List Term × Nat)

mutual

/-- Normalize the components of a term, leaving its top node alone. -/
def normalizeBelow (settle : Term → Nat → Budgeted) : Term → (spent : Nat) → Budgeted
  | .atom name, spent => .ok (.atom name, spent)
  | .compound operator components, spent =>
    match normalizeAll settle components spent with
    | .error problem => .error problem
    | .ok (normal, spent) => .ok (.compound operator normal, spent)

/-- Normalize terms from left to right. -/
def normalizeAll (settle : Term → Nat → Budgeted) : List Term → (spent : Nat) → BudgetedAll
  | [], spent => .ok ([], spent)
  | component :: rest, spent =>
    match normalizeBelow settle component spent with
    | .error problem => .error problem
    | .ok (below, spent) =>
      match settle below spent with
      | .error problem => .error problem
      | .ok (first, spent) =>
        match normalizeAll settle rest spent with
        | .error problem => .error problem
        | .ok (others, spent) => .ok (first :: others, spent)

end

/-- The term that a template puts in for a bound variable. -/
def boundTerm? (bindings : Bindings) : Term → Option Term
  | .atom name => if Term.isVariableName name then bindings.get? name else none
  | .compound _ _ => none

mutual

/-- Put bindings into a template and normalize the components of the result, except for the terms that were
put in. -/
def instantiateBelow (settle : Term → Nat → Budgeted) (bindings : Bindings) :
    Term → (spent : Nat) → Budgeted
  | .atom name, spent => .ok ((boundTerm? bindings (.atom name)).getD (.atom name), spent)
  | .compound operator components, spent =>
    match instantiateAll settle bindings components spent with
    | .error problem => .error problem
    | .ok (normal, spent) => .ok (.compound operator normal, spent)

/-- Put bindings into templates and normalize the results from left to right, except for the terms that were
put in. -/
def instantiateAll (settle : Term → Nat → Budgeted) (bindings : Bindings) :
    List Term → (spent : Nat) → BudgetedAll
  | [], spent => .ok ([], spent)
  | component :: rest, spent =>
    match boundTerm? bindings component with
    | some bound =>
      match instantiateAll settle bindings rest spent with
      | .error problem => .error problem
      | .ok (others, spent) => .ok (bound :: others, spent)
    | none =>
      match instantiateBelow settle bindings component spent with
      | .error problem => .error problem
      | .ok (below, spent) =>
        match settle below spent with
        | .error problem => .error problem
        | .ok (first, spent) =>
          match instantiateAll settle bindings rest spent with
          | .error problem => .error problem
          | .ok (others, spent) => .ok (first :: others, spent)

end

/-- **Settling** a node whose components are normal.  `remaining` is no less than the number of steps that the
budget still has. -/
def settle (reducer : Reducer) : (remaining : Nat) → (node : Term) → (spent : Nat) → Budgeted
  | 0, node, spent => (reducer.atBound node spent).map fun last => (last, spent)
  | remaining + 1, node, spent =>
    if spent = reducer.maxSteps then
      (reducer.atBound node spent).map fun last => (last, spent)
    else
      match reducer.fire node with
      | .error problem => .error problem
      | .ok none => .ok (node, spent)
      | .ok (some reduct) =>
        let below :=
          match reduct with
          | .template template bindings =>
            instantiateBelow (settle reducer remaining) bindings template (spent + 1)
          | .computed term => normalizeBelow (settle reducer remaining) term (spent + 1)
        match below with
        | .error problem => .error problem
        | .ok (result, spent) => settle reducer remaining result spent

/-- **Normalization.** -/
def normalize (reducer : Reducer) (term : Term) : Except ReduceError Term :=
  let settle := reducer.settle reducer.maxSteps
  match normalizeBelow settle term 0 with
  | .error problem => .error problem
  | .ok (below, spent) => (settle below spent).map (·.1)

end TermSpace.Reducer
