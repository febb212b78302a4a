import TermSpace.Proofs.Matching.Values
import TermSpace.Proofs.Reduction.Counting

/-!
# Normalization is leftmost-innermost rewriting

Normalization goes through a term once, with the number of steps spent so far in hand, and skips the terms
that a template puts in.  The result is that of contracting the first redex of the whole term over and
over, as often as the budget allows (`normalize_innermost`).

A stretch of the program takes a term, with some steps spent, to an outcome.  The invariant of such a
stretch says what its outcome means for the whole term that it works on (`Run`): a result is reached by as
many contractions as were spent, an exceeded budget shows the first redex of the term reached by all of
them, a failed call is that of the first redex of a term reached before the budget was spent, and a match
without an outcome is one of a rule against a part of a term reached.  Stretches
compose, and a stretch in a component is one in the compound once the components before are normal.

The terms that a template puts in are parts of normal components.  Going through them would spend nothing
and change nothing, so that skipping them is the same as normalizing the substituted template
(`instantiateBelow_eq`).
-/

namespace TermSpace.Reducer

set_option autoImplicit false

variable {reducer : Reducer}

/-- The components of a term are normal. -/
def ComponentsNormal (reducer : Reducer) (term : Term) : Prop :=
  ∀ component ∈ term.components, reducer.Normal component

/-! ## Stretches of the program -/

/-- What the outcome of a stretch means for the term that it starts from, where a result has to be
`Done`. -/
def Run (reducer : Reducer) (Done : Term → Prop) (start : Term) (spent : Nat) : Budgeted → Prop
  | .ok (result, total) =>
    ∃ count, total = spent + count ∧ total ≤ reducer.maxSteps ∧
      reducer.ContractsIn count start result ∧ Done result
  | .error (.stepLimit last steps) =>
    steps = reducer.maxSteps ∧ ∃ count reached context, spent + count = reducer.maxSteps ∧
      reducer.ContractsIn count start reached ∧ reducer.firstRedex? reached = some (context, last)
  | .error (.grounded problem) =>
    ∃ count reached context redex, spent + count < reducer.maxSteps ∧
      reducer.ContractsIn count start reached ∧
      reducer.firstRedex? reached = some (context, redex) ∧ reducer.CallFails redex problem
  | .error (.matching problem) =>
    ∃ count reached part, spent + count ≤ reducer.maxSteps ∧
      reducer.ContractsIn count start reached ∧ part.Part reached ∧
      ∃ rule ∈ reducer.space.rules, Matching.find rule.pattern part = .error problem

namespace Run

variable {Done Middle : Term → Prop} {start middle : Term} {spent : Nat}

/-- A stretch that does nothing. -/
theorem stay (within : spent ≤ reducer.maxSteps) (done : Done start) :
    reducer.Run Done start spent (.ok (start, spent)) :=
  ⟨0, rfl, within, .zero start, done⟩

/-- An error says the same whatever a result would have had to be. -/
theorem of_error {problem : ReduceError}
    (run : reducer.Run Middle start spent (.error problem)) :
    reducer.Run Done start spent (.error problem) := by
  cases problem <;> exact run

/-- **Stretches compose.** -/
theorem prepend {total : Nat} {outcome : Budgeted} {count : Nat} (counted : total = spent + count)
    (contracts : reducer.ContractsIn count start middle)
    (run : reducer.Run Done middle total outcome) : reducer.Run Done start spent outcome := by
  subst counted
  cases outcome with
  | ok result =>
    obtain ⟨further, counted, within, others, done⟩ := run
    exact ⟨count + further, by omega, within, contracts.trans others, done⟩
  | error problem =>
    cases problem with
    | stepLimit last steps =>
      obtain ⟨limit, further, reached, context, counted, others, found⟩ := run
      exact ⟨limit, count + further, reached, context, by omega, contracts.trans others, found⟩
    | grounded problem =>
      obtain ⟨further, reached, context, redex, below, others, found, fails⟩ := run
      exact ⟨count + further, reached, context, redex, by omega, contracts.trans others, found, fails⟩
    | matching problem =>
      obtain ⟨further, reached, part, below, others, inside, circular⟩ := run
      exact ⟨count + further, reached, part, by omega, contracts.trans others, inside, circular⟩

/-- **A stretch in a component** is one in the compound if the components before are normal. -/
theorem inside {operator : String} {before after : List Term} {outcome : Budgeted}
    (normal : ∀ earlier ∈ before, reducer.Normal earlier)
    (run : reducer.Run Done start spent outcome) :
    reducer.Run (fun _ => True) (.compound operator (before ++ start :: after)) spent
      (outcome.map fun result => (.compound operator (before ++ result.1 :: after), result.2)) := by
  cases outcome with
  | ok result =>
    obtain ⟨count, counted, within, contracts, _⟩ := run
    exact ⟨count, counted, within, contracts.inside normal, trivial⟩
  | error problem =>
    cases problem with
    | stepLimit last steps =>
      obtain ⟨limit, count, reached, context, counted, contracts, found⟩ := run
      exact ⟨limit, count, _, _, counted, contracts.inside normal, firstRedex?_inside normal found⟩
    | grounded problem =>
      obtain ⟨count, reached, context, redex, below, contracts, found, fails⟩ := run
      exact ⟨count, _, _, redex, below, contracts.inside normal, firstRedex?_inside normal found,
        fails⟩
    | matching problem =>
      obtain ⟨count, reached, part, below, contracts, deeper, circular⟩ := run
      exact ⟨count, _, part, below, contracts.inside normal, .inside (by simp) deeper, circular⟩

end Run

/-! ## Going through components -/

/-- Settling is in order once so many steps are spent: it takes a node with normal components to a normal
term. -/
def Settles (reducer : Reducer) (settle : Term → Nat → Budgeted) (least : Nat) : Prop :=
  ∀ node spent, least ≤ spent → spent ≤ reducer.maxSteps → reducer.ComponentsNormal node →
    reducer.Run reducer.Normal node spent (settle node spent)

section Components

variable {settle : Term → Nat → Budgeted} {least : Nat}

mutual

/-- Normalizing the components of a term is a stretch of contractions. -/
theorem run_normalizeBelow (settles : reducer.Settles settle least) :
    ∀ (term : Term) (spent : Nat), least ≤ spent → spent ≤ reducer.maxSteps →
      reducer.Run reducer.ComponentsNormal term spent (normalizeBelow settle term spent)
  | .atom name, spent, _, within => .stay within (by simp [ComponentsNormal, Term.components])
  | .compound operator components, spent, enough, within => by
    have run := run_normalizeAll settles operator components [] (by simp) spent enough within
    rw [normalizeBelow]
    cases outcome : normalizeAll settle components spent with
    | error problem =>
      rw [outcome] at run
      exact run
    | ok result =>
      rw [outcome] at run
      exact run

/-- Normalizing components that come after normal ones is a stretch of contractions in the compound. -/
theorem run_normalizeAll (settles : reducer.Settles settle least) (operator : String) :
    ∀ (components before : List Term), (∀ earlier ∈ before, reducer.Normal earlier) →
      ∀ spent : Nat, least ≤ spent → spent ≤ reducer.maxSteps →
        reducer.Run reducer.ComponentsNormal (.compound operator (before ++ components)) spent
          ((normalizeAll settle components spent).map fun result =>
            (.compound operator (before ++ result.1), result.2))
  | [], before, normal, spent, _, within => by
    rw [normalizeAll, Except.map]
    exact .stay within (by simpa [ComponentsNormal, Term.components] using normal)
  | component :: rest, before, normal, spent, enough, within => by
    have deeper := run_normalizeBelow settles component spent enough within
    rw [normalizeAll]
    cases below : normalizeBelow settle component spent with
    | error problem =>
      rw [below] at deeper
      exact .of_error (deeper.inside normal)
    | ok result =>
      obtain ⟨node, total⟩ := result
      rw [below] at deeper
      obtain ⟨count, counted, withinBelow, contracts, nodeComponents⟩ := deeper
      refine .prepend counted (contracts.inside normal) ?_
      have here := settles node total (by omega) withinBelow nodeComponents
      show reducer.Run _ _ _ (Except.map _ (match settle node total with
        | .error problem => .error problem
        | .ok (first, spent) => _))
      cases settled : settle node total with
      | error problem =>
        rw [settled] at here
        exact .of_error (here.inside normal)
      | ok result =>
        obtain ⟨first, total'⟩ := result
        rw [settled] at here
        obtain ⟨count', counted', withinHere, contracts', firstNormal⟩ := here
        refine .prepend counted' (contracts'.inside normal) ?_
        have others := run_normalizeAll settles operator rest (before ++ [first])
          (by simpa [or_imp, forall_and] using ⟨normal, firstNormal⟩) total' (by omega) withinHere
        simp only [List.append_assoc, List.singleton_append] at others
        show reducer.Run _ _ _ (Except.map _ (match normalizeAll settle rest total' with
          | .error problem => .error problem
          | .ok (others, spent) => .ok (first :: others, spent)))
        cases last : normalizeAll settle rest total' with
        | error problem =>
          rw [last] at others
          exact others
        | ok result =>
          rw [last] at others
          exact others

end

end Components

/-! ## Settling -/

/-- Settling leaves a quiet node alone. -/
theorem settle_of_quiet {node : Term} (quiet : reducer.Quiet node) (remaining spent : Nat) :
    reducer.settle remaining node spent = .ok (node, spent) := by
  rw [← Counting.outcome_settle reducer remaining node spent, Counting.outcome,
    Counting.on_settle_of_quiet quiet]
  rfl

/-- At the bound a node with normal components is normal or the first redex. -/
theorem run_atBound {node : Term} (components : reducer.ComponentsNormal node) :
    reducer.Run reducer.Normal node reducer.maxSteps
      ((reducer.atBound node reducer.maxSteps).map fun last => (last, reducer.maxSteps)) := by
  have spec := reducer.applies_spec node
  rw [atBound]
  cases applies : reducer.applies node with
  | error problem =>
    rw [applies] at spec
    obtain ⟨circular, rfl, found⟩ := spec
    exact ⟨0, node, node, Nat.le_refl _, .zero node, .whole node, found⟩
  | ok answer =>
    rw [applies] at spec
    cases answer with
    | false => exact .stay (Nat.le_refl _) (normal_of_components spec components)
    | true =>
      exact ⟨rfl, 0, node, .hole, rfl, .zero node, firstRedex?_here spec components⟩

/-- A template that fires is that of a rule whose pattern is a compound and matches the node. -/
theorem find_of_fire_template {node template : Term} {bindings : Bindings}
    (fired : reducer.fire node = .ok (some (.template template bindings))) :
    ∃ operator patterns, Matching.find (.compound operator patterns) node = .ok (some bindings) := by
  rw [fire] at fired
  cases found : Rule.first? node reducer.space.rules with
  | error problem => simp [found] at fired
  | ok answer =>
    cases answer with
    | none =>
      rw [found] at fired
      cases call : node.groundedCall? with
      | none => simp [call] at fired
      | some pair =>
        obtain ⟨name, arguments⟩ := pair
        cases result : reducer.registry.execute reducer.space name arguments <;>
          simp [call, result] at fired
    | some pair =>
      obtain ⟨rule, matched⟩ := pair
      obtain ⟨-, outcome⟩ := Rule.first?_eq_some found
      simp only [found, Except.ok.injEq, Option.some.injEq] at fired
      obtain ⟨pattern, body⟩ := rule
      cases body with
      | native compute => cases fired
      | template result =>
        cases pattern with
        | atom name => cases fired
        | compound operator patterns =>
          cases fired
          exact ⟨operator, patterns, outcome⟩

/-- To skip the values that a template rule puts in makes no difference: they are parts of the normal components
of the node that the rule matched. -/
theorem instantiateBelow_eq {node template : Term} {bindings : Bindings}
    (components : reducer.ComponentsNormal node)
    (fired : reducer.fire node = .ok (some (.template template bindings))) (remaining spent : Nat) :
    instantiateBelow (reducer.settle remaining) bindings template spent =
      normalizeBelow (reducer.settle remaining) (template.substitute bindings) spent := by
  obtain ⟨operator, patterns, outcome⟩ := find_of_fire_template fired
  refine Counting.instantiateBelow_eq (fun name value bound part inside spent => ?_) template spent
  obtain ⟨-, component, member, deeper⟩ := Matching.find_values outcome bound
  rw [Counting.on_settle_of_quiet (components component member part (inside.trans deeper))]
  exact .inl rfl

/-- What fires is followed by normalizing the components of its result as a whole: to skip the values that
a template puts in makes no difference. -/
theorem settle_of_fire {node : Term} {reduct : Reduct} {remaining spent : Nat}
    (components : reducer.ComponentsNormal node)
    (fired : reducer.fire node = .ok (some reduct)) (below : spent ≠ reducer.maxSteps) :
    reducer.settle (remaining + 1) node spent =
      match normalizeBelow (reducer.settle remaining) reduct.toTerm (spent + 1) with
      | .error problem => .error problem
      | .ok (result, spent) => reducer.settle remaining result spent := by
  rw [settle, if_neg below]
  cases reduct with
  | computed term =>
    simp only [fired]
    rfl
  | template template bindings =>
    simp only [fired, instantiateBelow_eq components fired]
    rfl

/-- **Settling** a node with normal components is a stretch of contractions that ends in a normal term. -/
theorem run_settle (reducer : Reducer) :
    ∀ remaining, reducer.Settles (reducer.settle remaining) (reducer.maxSteps - remaining)
  | 0, node, spent, enough, within, components => by
    obtain rfl : spent = reducer.maxSteps := by omega
    rw [settle]
    exact run_atBound components
  | remaining + 1, node, spent, enough, within, components => by
    by_cases bound : spent = reducer.maxSteps
    · subst bound
      rw [settle, if_pos rfl]
      exact run_atBound components
    have spec := reducer.fire_spec node
    cases fired : reducer.fire node with
    | error problem =>
      rw [fired] at spec
      rw [settle, if_neg bound, fired]
      cases problem with
      | stepLimit last steps => exact spec.elim
      | matching problem => exact ⟨0, node, node, within, .zero node, .whole node, spec⟩
      | grounded problem =>
        have first := firstRedex?_here spec.1 components
        exact ⟨0, node, .hole, node, by omega, .zero node, first, spec.2⟩
    | ok answer =>
      rw [fired] at spec
      cases answer with
      | none =>
        rw [settle_of_quiet spec]
        exact .stay within (normal_of_components spec components)
      | some reduct =>
        have settles := run_settle reducer remaining
        have contracts : reducer.ContractsIn 1 node reduct.toTerm :=
          .succ ⟨.hole, node, _, firstRedex?_here spec.1 components, spec.2, rfl⟩ (.zero _)
        have deeper := run_normalizeBelow settles reduct.toTerm (spent + 1) (by omega) (by omega)
        rw [settle_of_fire components fired bound]
        refine .prepend rfl contracts ?_
        cases below : normalizeBelow (reducer.settle remaining) reduct.toTerm (spent + 1) with
        | error problem =>
          rw [below] at deeper
          exact .of_error deeper
        | ok result =>
          obtain ⟨next, total⟩ := result
          rw [below] at deeper
          obtain ⟨count, counted, withinBelow, others, nextComponents⟩ := deeper
          exact .prepend counted others (settles next total (by omega) withinBelow nextComponents)

/-! ## Where a run ends -/

/-- The whole of normalization is one stretch. -/
theorem run_normalize (reducer : Reducer) (term : Term) :
    ∃ outcome, reducer.Run reducer.Normal term 0 outcome ∧
      reducer.normalize term = outcome.map (·.1) := by
  have settles := run_settle reducer reducer.maxSteps
  have deeper := run_normalizeBelow settles term 0 (by omega) (by omega)
  rw [normalize]
  cases below : normalizeBelow (reducer.settle reducer.maxSteps) term 0 with
  | error problem =>
    rw [below] at deeper
    exact ⟨.error problem, .of_error deeper, rfl⟩
  | ok result =>
    obtain ⟨next, total⟩ := result
    rw [below] at deeper
    obtain ⟨count, counted, within, contracts, components⟩ := deeper
    exact ⟨_, .prepend counted contracts (settles next total (by omega) within components), rfl⟩

/-- The term that contractions lead to when the budget is spent or nothing more can be contracted. -/
structure Ends (reducer : Reducer) (term : Term) (count : Nat) (reached : Term) : Prop where
  contracts : reducer.ContractsIn count term reached
  within : count ≤ reducer.maxSteps
  finished : count < reducer.maxSteps → ∀ next, ¬ reducer.Contracts reached next

namespace Ends

variable {term reached other : Term} {count count' : Nat}

theorem le (first : reducer.Ends term count reached) (second : reducer.Ends term count' other) :
    count' ≤ count := by
  by_contra longer
  obtain ⟨further, rfl⟩ : ∃ further, count' = count + (further + 1) :=
    ⟨count' - count - 1, by omega⟩
  cases first.contracts.continues second.contracts with
  | succ contracts _ => exact first.finished (by have := second.within; omega) _ contracts

/-- A run ends in one way only. -/
theorem unique (first : reducer.Ends term count reached)
    (second : reducer.Ends term count' other) : count = count' ∧ reached = other := by
  obtain rfl : count = count' := Nat.le_antisymm (second.le first) (first.le second)
  have rest : reducer.ContractsIn 0 reached other := first.contracts.continues second.contracts
  cases rest
  exact ⟨rfl, rfl⟩

theorem of_no_redex (contracts : reducer.ContractsIn count term reached)
    (within : count ≤ reducer.maxSteps) (none : reducer.firstRedex? reached = none) :
    reducer.Ends term count reached where
  contracts := contracts
  within := within
  finished _ next step := by
    obtain ⟨context, redex, reduct, found, _⟩ := step
    rw [none] at found
    cases found

theorem of_call_fails {context : Term.Context} {redex : Term} {problem : GroundedError}
    (contracts : reducer.ContractsIn count term reached) (within : count ≤ reducer.maxSteps)
    (first : reducer.firstRedex? reached = some (context, redex))
    (fails : reducer.CallFails redex problem) : reducer.Ends term count reached where
  contracts := contracts
  within := within
  finished _ next step := by
    obtain ⟨context', redex', reduct, found, stepped, _⟩ := step
    rw [first] at found
    cases found
    exact fails.step_ne reduct stepped

end Ends

/-- **The three ways in which normalization ends.** -/
theorem normalize_ends {term : Term}
    (returns : ∀ problem, reducer.normalize term ≠ .error (.matching problem)) :
    ∃ count reached, reducer.Ends term count reached ∧
      ((reducer.firstRedex? reached = none ∧ reducer.normalize term = .ok reached) ∨
        (∃ context last, count = reducer.maxSteps ∧
          reducer.firstRedex? reached = some (context, last) ∧
          reducer.normalize term = .error (.stepLimit last reducer.maxSteps)) ∨
        (∃ context redex problem, count < reducer.maxSteps ∧
          reducer.firstRedex? reached = some (context, redex) ∧
          reducer.CallFails redex problem ∧
          reducer.normalize term = .error (.grounded problem))) := by
  obtain ⟨outcome, run, same⟩ := run_normalize reducer term
  rw [same] at returns ⊢
  cases outcome with
  | ok result =>
    obtain ⟨result, total⟩ := result
    obtain ⟨count, counted, within, contracts, normal⟩ := run
    have none : reducer.firstRedex? result = none :=
      firstRedex?_eq_none.2 fun part inside => normal.not_isRedex inside
    exact ⟨count, result, .of_no_redex contracts (by omega) none, .inl ⟨none, rfl⟩⟩
  | error problem =>
    cases problem with
    | stepLimit last steps =>
      obtain ⟨rfl, count, reached, context, counted, contracts, first⟩ := run
      have ends : reducer.Ends term count reached := ⟨contracts, by omega, by omega⟩
      exact ⟨count, reached, ends, .inr (.inl ⟨context, last, by omega, first, rfl⟩)⟩
    | grounded problem =>
      obtain ⟨count, reached, context, redex, below, contracts, first, fails⟩ := run
      have ends := Ends.of_call_fails contracts (by omega) first fails
      exact ⟨count, reached, ends,
        .inr (.inr ⟨context, redex, problem, by omega, first, fails, rfl⟩)⟩
    | matching problem => exact absurd rfl (returns problem)

/-! ## The statement -/

section Outcomes

variable {term : Term} (returns : ∀ problem, reducer.normalize term ≠ .error (.matching problem))
include returns

theorem normalize_eq_ok_iff (result : Term) :
    reducer.normalize term = .ok result ↔
      ∃ count ≤ reducer.maxSteps, reducer.ContractsIn count term result ∧
        ∀ part, Term.Part part result → ¬ reducer.isRedex part := by
  obtain ⟨count, reached, ends, outcome⟩ := normalize_ends returns
  constructor
  · intro succeeds
    rcases outcome with ⟨none, same⟩ | ⟨_, _, _, _, same⟩ | ⟨_, _, _, _, _, _, same⟩ <;>
      rw [succeeds] at same <;> cases same
    exact ⟨count, ends.within, ends.contracts, firstRedex?_eq_none.1 none⟩
  · rintro ⟨count', within, contracts, nowhere⟩
    have none := firstRedex?_eq_none.2 nowhere
    obtain ⟨rfl, rfl⟩ := ends.unique (.of_no_redex contracts within none)
    rcases outcome with ⟨_, same⟩ | ⟨_, _, _, first, _⟩ | ⟨_, _, _, _, first, _⟩
    · exact same
    · rw [none] at first
      cases first
    · rw [none] at first
      cases first

theorem normalize_eq_stepLimit_iff (last : Term) (steps : Nat) :
    reducer.normalize term = .error (.stepLimit last steps) ↔
      ∃ reached context, reducer.ContractsIn reducer.maxSteps term reached ∧
        reducer.firstRedex? reached = some (context, last) ∧ steps = reducer.maxSteps := by
  obtain ⟨count, reached, ends, outcome⟩ := normalize_ends returns
  constructor
  · intro fails
    rcases outcome with ⟨_, same⟩ | ⟨context, _, spent, first, same⟩ | ⟨_, _, _, _, _, _, same⟩ <;>
      rw [fails] at same <;> cases same
    exact ⟨reached, context, spent ▸ ends.contracts, first, rfl⟩
  · rintro ⟨reached', context, contracts, first, rfl⟩
    have ends' : reducer.Ends term reducer.maxSteps reached' :=
      ⟨contracts, Nat.le_refl _, fun below => absurd below (Nat.lt_irrefl _)⟩
    obtain ⟨rfl, rfl⟩ := ends.unique ends'
    rcases outcome with ⟨none, _⟩ | ⟨_, _, _, first', same⟩ | ⟨_, _, _, below, _⟩
    · rw [none] at first
      cases first
    · rw [first] at first'
      cases first'
      exact same
    · exact absurd below (Nat.lt_irrefl _)

theorem normalize_eq_grounded_iff (problem : GroundedError) :
    reducer.normalize term = .error (.grounded problem) ↔
      ∃ count < reducer.maxSteps, ∃ reached context redex,
        reducer.ContractsIn count term reached ∧
        reducer.firstRedex? reached = some (context, redex) ∧
        reducer.CallFails redex problem := by
  obtain ⟨count, reached, ends, outcome⟩ := normalize_ends returns
  constructor
  · intro fails
    rcases outcome with ⟨_, same⟩ | ⟨_, _, _, _, same⟩ |
        ⟨context, redex, _, below, first, called, same⟩ <;>
      rw [fails] at same <;> cases same
    exact ⟨count, below, reached, context, redex, ends.contracts, first, called⟩
  · rintro ⟨count', below, reached', context, redex, contracts, first, fails⟩
    obtain ⟨rfl, rfl⟩ := ends.unique (.of_call_fails contracts (by omega) first fails)
    rcases outcome with ⟨none, _⟩ | ⟨_, _, spent, _⟩ | ⟨_, _, _, _, first', fails', same⟩
    · rw [none] at first
      cases first
    · exact absurd below (by omega)
    · rw [first] at first'
      cases first'
      rw [same, fails.unique fails']

end Outcomes

/-- **Normalization is leftmost-innermost rewriting under one budget.** If the match of a rule has no
outcome, it is one against a part of a term that contractions lead to.  Otherwise a result, an exceeded
budget and a failed call each mean what contracting the first redex over and over leads to. -/
theorem normalize_innermost (reducer : Reducer) (term : Term) :
    (∀ problem, reducer.normalize term = .error (.matching problem) →
      ∃ count ≤ reducer.maxSteps, ∃ reached part, reducer.ContractsIn count term reached ∧
        Term.Part part reached ∧
        ∃ rule ∈ reducer.space.rules, Matching.find rule.pattern part = .error problem) ∧
    ((∀ problem, reducer.normalize term ≠ .error (.matching problem)) →
      (∀ result, reducer.normalize term = .ok result ↔
        ∃ count ≤ reducer.maxSteps, reducer.ContractsIn count term result ∧
          ∀ part, Term.Part part result → ¬ reducer.isRedex part) ∧
      (∀ last steps, reducer.normalize term = .error (.stepLimit last steps) ↔
        ∃ reached context, reducer.ContractsIn reducer.maxSteps term reached ∧
          reducer.firstRedex? reached = some (context, last) ∧ steps = reducer.maxSteps) ∧
      ∀ problem, reducer.normalize term = .error (.grounded problem) ↔
        ∃ count < reducer.maxSteps, ∃ reached context redex,
          reducer.ContractsIn count term reached ∧
          reducer.firstRedex? reached = some (context, redex) ∧
          reducer.CallFails redex problem) := by
  refine ⟨fun problem fails => ?_, fun returns => ⟨?_, ?_, ?_⟩⟩
  · obtain ⟨outcome, run, same⟩ := run_normalize reducer term
    rw [same] at fails
    cases outcome with
    | ok result => cases fails
    | error other =>
      cases fails
      obtain ⟨count, reached, part, within, contracts, inside, circular⟩ := run
      exact ⟨count, by omega, reached, part, contracts, inside, circular⟩
  · exact normalize_eq_ok_iff returns
  · exact normalize_eq_stepLimit_iff returns
  · exact normalize_eq_grounded_iff returns

/-- The rules `(f $x) → (g $x $x)` and `(c) → a`, with so many steps allowed. -/
def copying (maxSteps : Nat) : Reducer where
  space := (Space.empty.addRule ⟨.compound "f" [.atom "$x"],
      .template (.compound "g" [.atom "$x", .atom "$x"])⟩).addRule
    ⟨.compound "c" [], .template (.atom "a")⟩
  registry := ∅
  maxSteps

/-- Two steps are enough to normalize `(f (c))`, and after one the first redex is `(f a)`. -/
theorem normalize_innermost_copying :
    (∃ count ≤ 2, (copying 2).ContractsIn count (.compound "f" [.compound "c" []])
        (.compound "g" [.atom "a", .atom "a"]) ∧
      ∀ part, Term.Part part (.compound "g" [.atom "a", .atom "a"]) →
        ¬ (copying 2).isRedex part) ∧
    ∃ reached context, (copying 1).ContractsIn 1 (.compound "f" [.compound "c" []]) reached ∧
      (copying 1).firstRedex? reached = some (context, .compound "f" [.atom "a"]) ∧ 1 = 1 :=
  ⟨(((normalize_innermost (copying 2) (.compound "f" [.compound "c" []])).2 nofun).1 _).1 rfl,
    (((normalize_innermost (copying 1) (.compound "f" [.compound "c" []])).2 nofun).2.1 _ _).1 rfl⟩

end TermSpace.Reducer
