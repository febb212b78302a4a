import TermSpace.Proofs.Reduction.Innermost
import TermSpace.Proofs.Term.Substitution
import TermSpace.Reduction.Normalize

/-!
# Counting the steps of normalization

How many steps are spent is known also when normalization fails.  To speak of it, normalization is written once
more as a program over a counter that outlives errors (`Counting`); where the program succeeds, its result and
its counter are those of normalization, and where it fails, its error is (`outcome_settle`).

Normalization skips the terms that a template puts in.  A term may be skipped where settling gives back each of
its parts and spends nothing.  Settling a part may fail instead, and then going through the term fails and
skipping it does not.  So instantiating a template follows normalizing its instance up to failures of that kind
(`follows_instantiateBelow`), and is the same where there are none (`instantiateBelow_eq`).
-/

namespace TermSpace.Reducer

set_option autoImplicit false

/-! ## Programs over a counter -/

/-- A program that counts the steps spent.  What has been counted stays counted when it fails. -/
abbrev Counting (α : Type) := ExceptT ReduceError (StateM Nat) α

namespace Counting

variable {α β : Type}

/-- Ask for something that may depend on the steps spent, and spends none. -/
def ask (answer : Nat → Except ReduceError α) : Counting α := fun spent => (answer spent, spent)

/-- Count one step. -/
def spend : Counting Unit := fun spent => (.ok (), spent + 1)

/-- What a program answers when so many steps are spent, and how many are spent after it. -/
def on (program : Counting α) (spent : Nat) : Except ReduceError α × Nat := program spent

/-- What a program answers, with the count only where it succeeds. -/
def outcome (program : Counting α) (spent : Nat) : Except ReduceError (α × Nat) :=
  (program.on spent).1.map fun value => (value, (program.on spent).2)

/-- What comes next goes on with the count that the first part has left. -/
theorem on_bind (first : Counting α) (next : α → Counting β) (spent : Nat) :
    (first >>= next).on spent =
      match first.on spent with
      | (.error problem, total) => (.error problem, total)
      | (.ok value, total) => (next value).on total := by
  change ExceptT.bindCont next (first spent).1 (first spent).2 = _
  rw [on]
  rcases first spent with ⟨problem | value, total⟩ <;> rfl

theorem on_ask (answer : Nat → Except ReduceError α) (spent : Nat) :
    (ask answer).on spent = (answer spent, spent) := rfl

theorem outcome_pure (value : α) (spent : Nat) :
    (pure value : Counting α).outcome spent = .ok (value, spent) := rfl

theorem outcome_bind (first : Counting α) (next : α → Counting β) (spent : Nat) :
    (first >>= next).outcome spent =
      match first.outcome spent with
      | .error problem => .error problem
      | .ok (value, total) => (next value).outcome total := by
  simp only [outcome, on_bind]
  rcases first.on spent with ⟨problem | value, total⟩ <;> rfl

theorem outcome_ask (answer : Nat → Except ReduceError α) (spent : Nat) :
    (ask answer).outcome spent = (answer spent).map fun value => (value, spent) := rfl

theorem outcome_spend (spent : Nat) : spend.outcome spent = .ok ((), spent + 1) := rfl

/-! ## Normalization over a counter -/

mutual

/-- Normalize the components of a term. -/
def normalizeBelow (settle : Term → Counting Term) : Term → Counting Term
  | .atom name => return .atom name
  | .compound operator components => do
    let normal ← normalizeAll settle components
    return .compound operator normal

/-- Normalize terms from left to right. -/
def normalizeAll (settle : Term → Counting Term) : List Term → Counting (List Term)
  | [] => return []
  | component :: rest => do
    let below ← normalizeBelow settle component
    let first ← settle below
    let others ← normalizeAll settle rest
    return first :: others

end

mutual

/-- Put bindings into a template and normalize the components of the result, except for what was put in. -/
def instantiateBelow (settle : Term → Counting Term) (bindings : Bindings) : Term → Counting Term
  | .atom name => return (boundTerm? bindings (.atom name)).getD (.atom name)
  | .compound operator components => do
    let normal ← instantiateAll settle bindings components
    return .compound operator normal

/-- Put bindings into templates and normalize the results, except for what was put in. -/
def instantiateAll (settle : Term → Counting Term) (bindings : Bindings) :
    List Term → Counting (List Term)
  | [] => return []
  | component :: rest =>
    match boundTerm? bindings component with
    | some bound => do
      let others ← instantiateAll settle bindings rest
      return bound :: others
    | none => do
      let below ← instantiateBelow settle bindings component
      let first ← settle below
      let others ← instantiateAll settle bindings rest
      return first :: others

end

/-- Settle a node whose components are normal. -/
def settle (reducer : Reducer) : (remaining : Nat) → (node : Term) → Counting Term
  | 0, node => ask (reducer.atBound node)
  | remaining + 1, node => do
    let spent ← ask .ok
    if spent = reducer.maxSteps then ask (reducer.atBound node)
    else
      match ← ask fun _ => reducer.fire node with
      | none => return node
      | some reduct => do
        spend
        let result ←
          match reduct with
          | .template template bindings => instantiateBelow (settle reducer remaining) bindings template
          | .computed term => normalizeBelow (settle reducer remaining) term
        settle reducer remaining result

/-! ## The results are those of normalization -/

/-- Settling over a counter has the results of settling. -/
def HasResults (settle : Term → Counting Term) (budgeted : Term → Nat → Budgeted) : Prop :=
  ∀ node spent, (settle node).outcome spent = budgeted node spent

section Outcomes

variable {settle : Term → Counting Term} {budgeted : Term → Nat → Budgeted}

mutual

theorem outcome_normalizeBelow (same : HasResults settle budgeted) : ∀ (term : Term) (spent : Nat),
    (normalizeBelow settle term).outcome spent = Reducer.normalizeBelow budgeted term spent
  | .atom name, spent => by rw [normalizeBelow, Reducer.normalizeBelow, outcome_pure]
  | .compound operator components, spent => by
    rw [normalizeBelow, Reducer.normalizeBelow, outcome_bind, outcome_normalizeAll same components]
    cases Reducer.normalizeAll budgeted components spent <;> rfl

theorem outcome_normalizeAll (same : HasResults settle budgeted) :
    ∀ (components : List Term) (spent : Nat),
      (normalizeAll settle components).outcome spent = Reducer.normalizeAll budgeted components spent
  | [], spent => by rw [normalizeAll, Reducer.normalizeAll, outcome_pure]
  | component :: rest, spent => by
    simp only [normalizeAll, Reducer.normalizeAll, outcome_bind, outcome_pure, same _ _,
      outcome_normalizeBelow same component, outcome_normalizeAll same rest]
    cases Reducer.normalizeBelow budgeted component spent with
    | error problem => rfl
    | ok below =>
      dsimp only
      cases budgeted below.1 below.2 with
      | error problem => rfl
      | ok first =>
        dsimp only
        cases Reducer.normalizeAll budgeted rest first.2 <;> rfl

end

mutual

theorem outcome_instantiateBelow (same : HasResults settle budgeted) (bindings : Bindings) :
    ∀ (template : Term) (spent : Nat), (instantiateBelow settle bindings template).outcome spent =
      Reducer.instantiateBelow budgeted bindings template spent
  | .atom name, spent => by rw [instantiateBelow, Reducer.instantiateBelow, outcome_pure]
  | .compound operator components, spent => by
    rw [instantiateBelow, Reducer.instantiateBelow, outcome_bind,
      outcome_instantiateAll same bindings components]
    cases Reducer.instantiateAll budgeted bindings components spent <;> rfl

theorem outcome_instantiateAll (same : HasResults settle budgeted) (bindings : Bindings) :
    ∀ (templates : List Term) (spent : Nat), (instantiateAll settle bindings templates).outcome spent =
      Reducer.instantiateAll budgeted bindings templates spent
  | [], spent => by rw [instantiateAll, Reducer.instantiateAll, outcome_pure]
  | template :: rest, spent => by
    rw [instantiateAll, Reducer.instantiateAll]
    cases boundTerm? bindings template with
    | some bound =>
      simp only [outcome_bind, outcome_pure, outcome_instantiateAll same bindings rest]
      cases Reducer.instantiateAll budgeted bindings rest spent <;> rfl
    | none =>
      simp only [outcome_bind, outcome_pure, same _ _, outcome_instantiateBelow same bindings template,
        outcome_instantiateAll same bindings rest]
      cases Reducer.instantiateBelow budgeted bindings template spent with
      | error problem => rfl
      | ok below =>
        dsimp only
        cases budgeted below.1 below.2 with
        | error problem => rfl
        | ok first =>
          dsimp only
          cases Reducer.instantiateAll budgeted bindings rest first.2 <;> rfl

end

end Outcomes

/-- **Settling over a counter** has the results of settling. -/
theorem outcome_settle (reducer : Reducer) :
    ∀ remaining, HasResults (settle reducer remaining) (reducer.settle remaining)
  | 0, node, spent => rfl
  | remaining + 1, node, spent => by
    have same := outcome_settle reducer remaining
    rw [settle, Reducer.settle, outcome_bind, outcome_ask]
    dsimp only [Except.map]
    by_cases bound : spent = reducer.maxSteps
    · rw [if_pos bound, if_pos bound]
      rfl
    rw [if_neg bound, if_neg bound, outcome_bind, outcome_ask]
    cases reducer.fire node with
    | error problem => rfl
    | ok answer =>
      cases answer with
      | none => rfl
      | some reduct =>
        dsimp only [Except.map]
        rw [outcome_bind, outcome_spend]
        cases reduct with
        | template template bindings =>
          dsimp only
          rw [outcome_bind, outcome_instantiateBelow same]
          cases Reducer.instantiateBelow (reducer.settle remaining) bindings template (spent + 1) with
          | error problem => rfl
          | ok result => exact same result.1 result.2
        | computed term =>
          dsimp only
          rw [outcome_bind, outcome_normalizeBelow same]
          cases Reducer.normalizeBelow (reducer.settle remaining) term (spent + 1) with
          | error problem => rfl
          | ok result => exact same result.1 result.2

/-- Settling leaves a quiet node alone and spends nothing. -/
theorem on_settle_of_quiet {reducer : Reducer} {node : Term} (quiet : reducer.Quiet node)
    (remaining spent : Nat) :
    (settle reducer remaining node).on spent = (.ok node, spent) := by
  cases remaining with
  | zero => rw [settle, on_ask, quiet.atBound]
  | succ remaining =>
    rw [settle, on_bind, on_ask]
    dsimp only
    split
    · rw [on_ask, quiet.atBound]
    · rw [on_bind, on_ask, quiet.fire]
      rfl

/-! ## Skipping a part -/

/-- The first program does what the second one does, unless the second one fails in a certain way. -/
def Follows (Way : ReduceError → Prop) (first second : Counting α) : Prop :=
  ∀ spent, first.on spent = second.on spent ∨
    ∃ problem left, Way problem ∧ second.on spent = (.error problem, left)

namespace Follows

variable {Way : ReduceError → Prop} {first second : Counting α}

theorem refl (program : Counting α) : Follows Way program program := fun _ => .inl rfl

/-- What follows goes on following. -/
theorem bind (here : Follows Way first second) {next others : α → Counting β}
    (later : ∀ value, Follows Way (next value) (others value)) :
    Follows Way (first >>= next) (second >>= others) := by
  intro spent
  rw [on_bind, on_bind]
  rcases here spent with same | ⟨problem, left, way, fails⟩
  · rw [same]
    rcases second.on spent with ⟨problem | value, total⟩
    · exact .inl rfl
    · exact later value total
  · rw [fails]
    exact .inr ⟨problem, left, way, rfl⟩

/-- What gives nothing but a known value may be skipped. -/
theorem skip {value : α} (here : Follows Way (pure value) second) {rest : Counting β}
    {next : α → Counting β} (later : Follows Way rest (next value)) :
    Follows Way rest (second >>= next) := by
  intro spent
  rw [on_bind]
  rcases here spent with same | ⟨problem, left, way, fails⟩
  · rw [← same]
    exact later spent
  · rw [fails]
    exact .inr ⟨problem, left, way, rfl⟩

end Follows

section Skipping

variable {Way : ReduceError → Prop} {settle : Term → Counting Term}

mutual

/-- A term may be skipped if settling may be skipped at each of its parts. -/
theorem follows_normalizeBelow : ∀ term : Term,
    (∀ part, part.Part term → Follows Way (pure part) (settle part)) →
      Follows Way (pure term) (normalizeBelow settle term)
  | .atom name, _ => by
    rw [normalizeBelow]
    exact .refl _
  | .compound operator components, alone => by
    rw [normalizeBelow]
    exact .skip (follows_normalizeAll components fun component member part inside =>
      alone part (.inside member inside)) (.refl _)

theorem follows_normalizeAll : ∀ components : List Term,
    (∀ component ∈ components, ∀ part, part.Part component →
      Follows Way (pure part) (settle part)) →
      Follows Way (pure components) (normalizeAll settle components)
  | [], _ => by
    rw [normalizeAll]
    exact .refl _
  | component :: rest, alone => by
    have here := alone component List.mem_cons_self
    have later := follows_normalizeAll rest fun other member => alone other (List.mem_cons_of_mem _ member)
    rw [normalizeAll]
    exact .skip (follows_normalizeBelow component here)
      (.skip (here component (.whole component)) (.skip later (.refl _)))

end

theorem boundTerm?_eq_some {bindings : Bindings} {template bound : Term}
    (found : boundTerm? bindings template = some bound) :
    template.substitute bindings = bound ∧ ∃ name, bindings.get? name = some bound := by
  cases template with
  | atom name =>
    simp only [boundTerm?, Option.ite_none_right_eq_some] at found
    refine ⟨?_, name, found.2⟩
    rw [Term.substitute_variable bindings found.1, Bindings.image_of_get? found.2]
  | compound operator components => cases found

/-- Nothing is put in for an atom that is no variable, or has no term. -/
theorem substitute_of_boundTerm?_eq_none {bindings : Bindings} {name : String}
    (found : boundTerm? bindings (.atom name) = none) :
    (Term.atom name).substitute bindings = .atom name := by
  cases kind : Term.isVariableName name with
  | true =>
    have free : bindings.get? name = none := by simpa [boundTerm?, kind] using found
    rw [Term.substitute_variable bindings kind, Bindings.image, free]
    rfl
  | false => exact Term.substitute_constant bindings kind

/-- Settling may be skipped at all parts of all values. -/
def ValuesSkipped (Way : ReduceError → Prop) (settle : Term → Counting Term) (bindings : Bindings) : Prop :=
  ∀ name value, bindings.get? name = some value → ∀ part, part.Part value →
    Follows Way (pure part) (settle part)

mutual

/-- **Instantiating a template follows normalizing its instance,** where the values may be skipped. -/
theorem follows_instantiateBelow {bindings : Bindings} (alone : ValuesSkipped Way settle bindings) :
    ∀ template : Term, Follows Way (instantiateBelow settle bindings template)
      (normalizeBelow settle (template.substitute bindings))
  | .atom name => by
    rw [instantiateBelow]
    cases found : boundTerm? bindings (.atom name) with
    | some bound =>
      obtain ⟨same, other, value⟩ := boundTerm?_eq_some found
      rw [same]
      exact follows_normalizeBelow bound (alone other bound value)
    | none =>
      rw [substitute_of_boundTerm?_eq_none found, normalizeBelow]
      exact .refl _
  | .compound operator components => by
    rw [instantiateBelow, Term.substitute, normalizeBelow, Term.substituteAll_eq_map]
    exact (follows_instantiateAll alone components).bind fun _ => .refl _

theorem follows_instantiateAll {bindings : Bindings} (alone : ValuesSkipped Way settle bindings) :
    ∀ templates : List Term, Follows Way (instantiateAll settle bindings templates)
      (normalizeAll settle (templates.map (Term.substitute bindings)))
  | [] => by
    rw [instantiateAll, List.map_nil, normalizeAll]
    exact .refl _
  | template :: rest => by
    have later := follows_instantiateAll alone rest
    rw [instantiateAll, List.map_cons, normalizeAll]
    cases found : boundTerm? bindings template with
    | some bound =>
      obtain ⟨same, name, value⟩ := boundTerm?_eq_some found
      have here := alone name bound value
      rw [same]
      exact .skip (follows_normalizeBelow bound here)
        (.skip (here bound (.whole bound)) (later.bind fun _ => .refl _))
    | none =>
      exact (follows_instantiateBelow alone template).bind fun below =>
        (Follows.refl (settle below)).bind fun _ => later.bind fun _ => .refl _

end

end Skipping

/-! ## Skipping without failures -/

/-- What follows without failures has the same outcome. -/
theorem Follows.outcome_eq {first second : Counting α} (follows : Follows (fun _ => False) first second)
    (spent : Nat) : first.outcome spent = second.outcome spent := by
  rcases follows spent with same | ⟨_, _, impossible, _⟩
  · rw [outcome, outcome, same]
  · exact impossible.elim

/-- **Instantiating a template is normalizing its instance,** where values are skipped that cannot fail. -/
theorem instantiateBelow_eq {reducer : Reducer} {remaining : Nat} {bindings : Bindings}
    (alone : ValuesSkipped (fun _ => False) (settle reducer remaining) bindings) (template : Term)
    (spent : Nat) :
    Reducer.instantiateBelow (reducer.settle remaining) bindings template spent =
      Reducer.normalizeBelow (reducer.settle remaining) (template.substitute bindings) spent := by
  have same := outcome_settle reducer remaining
  rw [← outcome_instantiateBelow same, ← outcome_normalizeBelow same]
  exact (follows_instantiateBelow alone template).outcome_eq spent

end Counting

end TermSpace.Reducer
