import TermSpace.Branch
import TermSpace.Grounded.Registry

/-!
# One step of reduction

At the top node of a term the rules of the space are tried in their order, and the first that matches is
applied.  If none does, an application whose head is a grounded reference is called.
-/

namespace TermSpace

set_option autoImplicit false

/-- How a reduction fails. -/
inductive ReduceError where
  /-- The bound on steps is reached and a step would still apply. -/
  | stepLimit (last : Term) (steps : Nat)
  /-- A grounded call fails. -/
  | grounded (problem : GroundedError)
  /-- The match of a rule has no outcome. -/
  | matching (problem : MatchError)

/-- What the user is told of an error. -/
def ReduceError.message : ReduceError → String
  | .stepLimit last steps =>
    "reduction exceeded " ++ toString steps ++ " steps; last expression: " ++ last.render
  | .grounded problem => problem.message
  | .matching problem => problem.message

/-- The code that an error is looked up under. -/
def ReduceError.code : ReduceError → String
  | .stepLimit _ _ => "metta::reduce::step_limit"
  | .grounded problem => problem.code
  | .matching _ => "metta::match::circular"

/-- What may be done about an error. -/
def ReduceError.help? : ReduceError → Option String
  | .stepLimit _ _ => some <|
    "The rewrite system did not reach a normal form within the step bound. " ++
    "Review your rules for non-terminating patterns, or raise `max_steps`."
  | .grounded problem => problem.help?
  | .matching _ => none

/-- What terms are reduced with: a space, grounded functions, and a bound on the number of steps. -/
structure Reducer where
  space : Space
  registry : Registry
  maxSteps : Nat

/-- The bound on steps where none is asked for. -/
def Reducer.defaultMaxSteps : Nat := 1000

/-- The outcome of trying one step. -/
structure Step where
  reduced : Term
  /-- Whether anything was done. -/
  applied : Bool

/-- A step that applies, before its result is built. -/
inductive Reduct where
  /-- A template with bindings to put in.  All of their terms are parts of the components of the node that
  was matched. -/
  | template (template : Term) (bindings : Bindings)
  | computed (term : Term)

/-- The result of a step. -/
def Reduct.toTerm : Reduct → Term
  | .template result bindings => result.substitute bindings
  | .computed term => term

/-- What applying a rule amounts to.  A pattern that is an atom may bind the node as a whole, so that its
template does not count as one whose bindings are parts of components. -/
def Rule.reduct (rule : Rule) (bindings : Bindings) : Reduct :=
  match rule.body with
  | .template template =>
    if rule.pattern.isAtomic then .computed (template.substitute bindings)
    else .template template bindings
  | .native compute => .computed (compute bindings)

/-- The function and the arguments of an application whose head is a grounded reference. -/
def Term.groundedCall? (term : Term) : Option (String × List Term) :=
  match term.application? with
  | some (head, arguments) =>
    if head.isGroundedReference then some (head.name, arguments) else none
  | none => none

namespace Reducer

/-- The first step that applies at the top node, if any. -/
def fire (reducer : Reducer) (term : Term) : Except ReduceError (Option Reduct) :=
  match Rule.first? term reducer.space.rules with
  | .error problem => .error (.matching problem)
  | .ok (some (rule, bindings)) => .ok (some (rule.reduct bindings))
  | .ok none =>
    match term.groundedCall? with
    | none => .ok none
    | some (name, arguments) =>
      match reducer.registry.execute reducer.space name arguments with
      | .error problem => .error (.grounded problem)
      | .ok result => .ok (some (.computed result))

/-- Whether a step would apply at the top node.  Nothing is called. -/
def applies (reducer : Reducer) (term : Term) : Except ReduceError Bool :=
  match Rule.first? term reducer.space.rules with
  | .error problem => .error (.matching problem)
  | .ok (some _) => .ok true
  | .ok none => .ok term.groundedCall?.isSome

/-- **One step** at the top node. -/
def step (reducer : Reducer) (term : Term) : Except ReduceError Step :=
  match reducer.fire term with
  | .error problem => .error problem
  | .ok (some reduct) => .ok ⟨reduct.toTerm, true⟩
  | .ok none => .ok ⟨term, false⟩

/-- **All results of one step:** those of all rules that match, or that of the grounded call if none does. -/
def alternatives (reducer : Reducer) (term : Term) : Except ReduceError (Option (Branch Term)) :=
  match Rule.results term reducer.space.rules with
  | .error problem => .error (.matching problem)
  | .ok (first :: others) => .ok (Branch.settle (first :: others))
  | .ok [] =>
    match reducer.step term with
    | .error problem => .error problem
    | .ok outcome => .ok (if outcome.applied then some (.value outcome.reduced) else none)

/-- What to answer when the bound is reached: the term itself if nothing applies to it any more. -/
def atBound (reducer : Reducer) (last : Term) (steps : Nat) : Except ReduceError Term :=
  match reducer.applies last with
  | .error problem => .error problem
  | .ok true => .error (.stepLimit last steps)
  | .ok false => .ok last

/-- Reduce at the top node with a number of steps still allowed. -/
def reduceWithin (reducer : Reducer) : (remaining : Nat) → Term → Except ReduceError Term
  | 0, term => reducer.atBound term reducer.maxSteps
  | remaining + 1, term =>
    match reducer.fire term with
    | .error problem => .error problem
    | .ok none => .ok term
    | .ok (some reduct) => reduceWithin reducer remaining reduct.toTerm

/-- **Reduction at the top node,** until nothing applies there. -/
def reduce (reducer : Reducer) (term : Term) : Except ReduceError Term :=
  reducer.reduceWithin reducer.maxSteps term

end Reducer

end TermSpace
