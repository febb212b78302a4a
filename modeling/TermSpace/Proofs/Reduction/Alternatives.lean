import Mathlib.Data.List.Forall2
import TermSpace.Proofs.Branch.ListMonad
import TermSpace.Proofs.Reduction.TopNode

/-!
# One step and all of its results

One step applies the first rule that matches.  All results of a step are gathered by a second way through the
same rules, which goes on after a match and builds every result as it comes to it; the grounded call is left to
the step itself, where no rule matches.  Both agree: they fail with the same error, they find nothing in the
same cases, and otherwise the first of all results is that of the step (`alternatives_step`).

The second way tries more matches than the first.  What they may differ in is therefore a match without an
outcome, at a rule after the first one that matches (`Rule.EndlessLater`).
-/

namespace TermSpace

set_option autoImplicit false

/-! ## The results of rules -/

namespace Rule

/-- The values are the results of the rules that match, one for each rule and in the order of the rules. -/
def Yield (term : Term) (rules : List Rule) (values : List Term) : Prop :=
  List.Forall₂ (fun rule value => ∃ bindings, Matching.find rule.pattern term = .ok (some bindings) ∧
    value = rule.body.instantiate bindings) (rules.filter (·.matches term)) values

/-- Some rule matches, and the match of a rule after it has no outcome, the first that has none. -/
def EndlessLater (term : Term) (rules : List Rule) (problem : MatchError) : Prop :=
  ∃ earlier rule later, rules = earlier ++ rule :: later ∧ (∃ other ∈ earlier, other.matches term) ∧
    (∀ other ∈ earlier, ∃ answer, Matching.find other.pattern term = .ok answer) ∧
    Matching.find rule.pattern term = .error problem

variable {term : Term}

/-- **One rule more** in front. -/
theorem results_cons (term : Term) (rule : Rule) (rest : List Rule) :
    results term (rule :: rest) =
      match Matching.find rule.pattern term with
      | .error problem => .error problem
      | .ok none => results term rest
      | .ok (some bindings) => (results term rest).map (rule.body.instantiate bindings :: ·) := by
  rw [results]
  cases Matching.find rule.pattern term with
  | error problem => rfl
  | ok answer => cases results term rest <;> cases answer <;> rfl

/-- **Gathering against the search for the first match.** It fails where the search does, it finds nothing where
the search does, and otherwise it begins with the result of the rule that is found. -/
theorem results_spec (term : Term) : ∀ rules : List Rule,
    match first? term rules with
    | .error problem => results term rules = .error problem
    | .ok none => results term rules = .ok []
    | .ok (some (rule, bindings)) =>
      ∃ later, results term rules = (results term later).map (rule.body.instantiate bindings :: ·)
  | [] => rfl
  | rule :: rest => by
    rw [first?, results_cons]
    cases Matching.find rule.pattern term with
    | error problem => rfl
    | ok answer =>
      cases answer with
      | some bindings => exact ⟨rest, rfl⟩
      | none => exact results_spec term rest

/-- There are no results just where there is no first rule that matches. -/
theorem results_eq_nil_iff {rules : List Rule} :
    results term rules = .ok [] ↔ first? term rules = .ok none := by
  have spec := results_spec term rules
  cases found : first? term rules with
  | error problem =>
    rw [found] at spec
    simp [spec]
  | ok answer =>
    rw [found] at spec
    cases answer with
    | none => simp [spec]
    | some pair =>
      obtain ⟨later, same⟩ := spec
      cases others : results term later <;> simp [same, others, Except.map]

/-- **The first result** is that of the first rule that matches. -/
theorem first?_of_results {rules : List Rule} {first : Term} {others : List Term}
    (gathered : results term rules = .ok (first :: others)) :
    ∃ rule bindings, first? term rules = .ok (some (rule, bindings)) ∧
      rule.body.instantiate bindings = first := by
  have spec := results_spec term rules
  cases found : first? term rules with
  | error problem => simp [found, gathered] at spec
  | ok answer =>
    rw [found] at spec
    cases answer with
    | none => simp [gathered] at spec
    | some pair =>
      obtain ⟨later, same⟩ := spec
      rw [gathered] at same
      cases rest : results term later with
      | error problem => simp [rest, Except.map] at same
      | ok values =>
        simp only [rest, Except.map, Except.ok.injEq, List.cons.injEq] at same
        exact ⟨pair.1, pair.2, rfl, same.1.symm⟩

/-- **All results** are those of the rules that match. -/
theorem yield_of_results : ∀ {rules : List Rule} {values : List Term},
    results term rules = .ok values → Yield term rules values
  | [], values, gathered => by
    cases gathered
    exact .nil
  | rule :: rest, values, gathered => by
    rw [results_cons] at gathered
    cases here : Matching.find rule.pattern term with
    | error problem => simp [here] at gathered
    | ok answer =>
      rw [here] at gathered
      cases answer with
      | none =>
        have dropped : (rule :: rest).filter (·.matches term) = rest.filter (·.matches term) :=
          List.filter_cons_of_neg (not_matches_of_find here)
        rw [Yield, dropped]
        exact yield_of_results gathered
      | some bindings =>
        cases later : results term rest with
        | error problem => simp [later, Except.map] at gathered
        | ok others =>
          simp only [later, Except.map, Except.ok.injEq] at gathered
          subst gathered
          have kept : (rule :: rest).filter (·.matches term) = rule :: rest.filter (·.matches term) :=
            List.filter_cons_of_pos (matches_of_find here)
          rw [Yield, kept]
          exact .cons ⟨bindings, here, rfl⟩ (yield_of_results later)

/-- A rule whose match has an outcome is no reason for gathering to have none. -/
theorem results_cons_eq_error_iff {rule : Rule} {rest : List Rule} {problem : MatchError}
    {answer : Option Bindings} (here : Matching.find rule.pattern term = .ok answer) :
    results term (rule :: rest) = .error problem ↔ results term rest = .error problem := by
  rw [results_cons, here]
  cases answer with
  | none => rfl
  | some bindings => cases results term rest <;> simp [Except.map]

/-- Gathering has no outcome just where a match has none. -/
theorem results_eq_error_iff {problem : MatchError} : ∀ {rules : List Rule},
    results term rules = .error problem ↔
      ∃ earlier rule later, rules = earlier ++ rule :: later ∧
        (∀ other ∈ earlier, ∃ answer, Matching.find other.pattern term = .ok answer) ∧
        Matching.find rule.pattern term = .error problem
  | [] => by simp [results]
  | first :: rest => by
    constructor
    · intro failed
      cases here : Matching.find first.pattern term with
      | error other =>
        rw [results_cons, here] at failed
        cases failed
        exact ⟨[], first, rest, rfl, by simp, here⟩
      | ok answer =>
        obtain ⟨earlier, rule, later, rfl, each, there⟩ :=
          results_eq_error_iff.1 ((results_cons_eq_error_iff here).1 failed)
        exact ⟨first :: earlier, rule, later, rfl, List.forall_mem_cons.2 ⟨⟨answer, here⟩, each⟩, there⟩
    · rintro ⟨earlier, rule, later, split, each, there⟩
      cases earlier with
      | nil =>
        cases split
        rw [results_cons, there]
      | cons other earlier =>
        cases split
        obtain ⟨⟨answer, here⟩, each⟩ := List.forall_mem_cons.1 each
        exact (results_cons_eq_error_iff here).2
          (results_eq_error_iff.2 ⟨earlier, rule, later, rfl, each, there⟩)

/-- **Gathering fails where the search for the first match does,** or after it. -/
theorem results_eq_error_iff_first? {rules : List Rule} {problem : MatchError} :
    results term rules = .error problem ↔
      first? term rules = .error problem ∨ EndlessLater term rules problem := by
  constructor
  · intro failed
    obtain ⟨earlier, rule, later, rfl, each, there⟩ := results_eq_error_iff.1 failed
    by_cases some : ∃ other ∈ earlier, other.matches term
    · exact .inr ⟨earlier, rule, later, rfl, some, each, there⟩
    · have unmatched : first? term earlier = .ok none := by
        refine first?_eq_none.2 fun other member => ?_
        obtain ⟨answer, outcome⟩ := each other member
        cases answer with
        | none => exact outcome
        | some bindings => exact absurd ⟨other, member, matches_of_find outcome⟩ some
      rw [first?_append, unmatched, first?, there]
      exact .inl rfl
  · rintro (failed | ⟨earlier, rule, later, split, -, each, there⟩)
    · have spec := results_spec term rules
      rwa [failed] at spec
    · exact results_eq_error_iff.2 ⟨earlier, rule, later, split, each, there⟩

end Rule

/-! ## The rule of size -/

/-- A branch that has been settled is a value by itself just where there is a single one. -/
theorem Branch.isSuper_of_settle {α : Type} {held : List α} {branch : Branch α}
    (settled : Branch.settle held = some branch) :
    branch.values = held ∧ (branch.isSuper = false ↔ held.length = 1) := by
  match held, settled with
  | [_], rfl => simp [Branch.values, Branch.isSuper]
  | _ :: _ :: _, rfl => simp [Branch.values, Branch.isSuper]

namespace Reducer

variable {reducer : Reducer} {term : Term}

/-! ## The step -/

/-- The step applies the first rule that matches. -/
theorem step_of_first? {rule : Rule} {bindings : Bindings}
    (first : Rule.first? term reducer.space.rules = .ok (some (rule, bindings))) :
    reducer.step term = .ok ⟨rule.body.instantiate bindings, true⟩ := by
  rw [step, fire, first, ← Rule.toTerm_reduct]

theorem step_of_first?_error {problem : MatchError}
    (failed : Rule.first? term reducer.space.rules = .error problem) :
    reducer.step term = .error (.matching problem) := by
  rw [step, fire, failed]

/-- Where no rule matches, a step that applies is the grounded call. -/
theorem call_of_step {outcome : Step} (unmatched : Rule.first? term reducer.space.rules = .ok none)
    (stepped : reducer.step term = .ok outcome) (applied : outcome.applied = true) :
    ∃ name arguments, term.groundedCall? = some (name, arguments) ∧
      reducer.registry.execute reducer.space name arguments = .ok outcome.reduced := by
  rw [step, fire, unmatched] at stepped
  cases call : term.groundedCall? with
  | none =>
    simp only [call, Except.ok.injEq] at stepped
    subst stepped
    cases applied
  | some pair =>
    obtain ⟨name, arguments⟩ := pair
    refine ⟨name, arguments, rfl, ?_⟩
    cases result : reducer.registry.execute reducer.space name arguments with
    | error problem => simp [call, result] at stepped
    | ok value =>
      simp only [call, result, Except.ok.injEq] at stepped
      subst stepped
      rfl

/-! ## All results -/

/-- **A branch holds all results of a step.** The first of them is that of the step.  They are those of the
rules that match, in the order of the rules, or that of the grounded call alone where no rule does.  The branch
is a value by itself just if there is one of them. -/
structure Gathers (reducer : Reducer) (term : Term) (branch : Branch Term) : Prop where
  first : ∃ reduced others, branch.values = reduced :: others ∧ reducer.step term = .ok ⟨reduced, true⟩
  ofRules : (∃ rule ∈ reducer.space.rules, rule.matches term) →
    Rule.Yield term reducer.space.rules branch.values
  ofCall : (∀ rule ∈ reducer.space.rules, ¬ rule.matches term) →
    ∃ name arguments result, term.groundedCall? = some (name, arguments) ∧
      reducer.registry.execute reducer.space name arguments = .ok result ∧ branch.values = [result]
  sized : branch.isSuper = false ↔ branch.values.length = 1

/-- Gathering fails as the step does, unless a match after the first one that succeeds has no outcome. -/
theorem alternatives_eq_error_iff {problem : ReduceError} :
    reducer.alternatives term = .error problem ↔ reducer.step term = .error problem ∨
      ∃ circular, problem = .matching circular ∧ Rule.EndlessLater term reducer.space.rules circular := by
  constructor
  · intro failed
    rw [alternatives] at failed
    cases gathered : Rule.results term reducer.space.rules with
    | error circular =>
      rw [gathered] at failed
      cases failed
      refine (Rule.results_eq_error_iff_first?.1 gathered).imp step_of_first?_error fun later => ?_
      exact ⟨circular, rfl, later⟩
    | ok values =>
      rw [gathered] at failed
      cases values with
      | cons first others => cases failed
      | nil =>
        cases stepped : reducer.step term with
        | error other =>
          simp only [stepped, Except.error.injEq] at failed
          exact .inl (failed ▸ rfl)
        | ok outcome => simp [stepped] at failed
  · rintro (failed | ⟨circular, rfl, later⟩)
    · cases found : Rule.first? term reducer.space.rules with
      | error circular =>
        rw [step_of_first?_error found] at failed
        cases failed
        rw [alternatives, Rule.results_eq_error_iff_first?.2 (.inl found)]
      | ok answer =>
        cases answer with
        | none =>
          rw [alternatives, Rule.results_eq_nil_iff.2 found]
          simp only [failed]
        | some pair =>
          rw [step_of_first? found] at failed
          cases failed
    · rw [alternatives, Rule.results_eq_error_iff_first?.2 (.inr later)]

/-- Nothing is gathered where the step stops. -/
theorem alternatives_eq_none_iff : reducer.alternatives term = .ok none ↔ reducer.Stops term := by
  constructor
  · intro nothing
    rw [alternatives] at nothing
    cases gathered : Rule.results term reducer.space.rules with
    | error circular => simp [gathered] at nothing
    | ok values =>
      rw [gathered] at nothing
      cases values with
      | cons first others =>
        have settled : Branch.settle (first :: others) = none := Except.ok.inj nothing
        cases others <;> cases settled
      | nil =>
        cases stepped : reducer.step term with
        | error problem => simp [stepped] at nothing
        | ok outcome => exact ⟨outcome, stepped, by simpa [stepped] using nothing⟩
  · rintro stops
    obtain ⟨unmatched, -⟩ := quiet_iff.1 (stops_iff_quiet.1 stops)
    obtain ⟨outcome, stepped, idle⟩ := stops
    rw [alternatives, Rule.results_eq_nil_iff.2 (Rule.first?_eq_none.2 unmatched)]
    simp [stepped, idle]

/-- What is gathered from rules. -/
theorem gathers_of_results {first : Term} {others : List Term} {branch : Branch Term}
    (gathered : Rule.results term reducer.space.rules = .ok (first :: others))
    (settled : Branch.settle (first :: others) = some branch) : reducer.Gathers term branch := by
  obtain ⟨held, sized⟩ := Branch.isSuper_of_settle settled
  obtain ⟨rule, bindings, found, rfl⟩ := Rule.first?_of_results gathered
  refine ⟨⟨_, others, held, step_of_first? found⟩, fun _ => held ▸ Rule.yield_of_results gathered,
    fun unmatched => ?_, held ▸ sized⟩
  obtain ⟨member, matched⟩ := Rule.first?_eq_some found
  exact absurd (Rule.matches_of_find matched) (unmatched rule member)

/-- What is gathered from the grounded call. -/
theorem gathers_of_call {outcome : Step} (unmatched : Rule.first? term reducer.space.rules = .ok none)
    (stepped : reducer.step term = .ok outcome) (applied : outcome.applied = true) :
    reducer.Gathers term (.value outcome.reduced) := by
  obtain ⟨name, arguments, call, result⟩ := call_of_step unmatched stepped applied
  obtain ⟨reduced, _⟩ := outcome
  cases applied
  refine ⟨⟨reduced, [], rfl, stepped⟩, ?_, fun _ => ⟨name, arguments, reduced, call, result, rfl⟩,
    by simp [Branch.values, Branch.isSuper]⟩
  rintro ⟨rule, member, matched⟩
  exact absurd matched (Rule.not_matches_of_find (Rule.first?_eq_none.1 unmatched rule member))

/-- Whatever is gathered comes from the rules that match, or from the grounded call. -/
theorem gathers_of_alternatives {branch : Branch Term}
    (gathered : reducer.alternatives term = .ok (some branch)) : reducer.Gathers term branch := by
  rw [alternatives] at gathered
  cases results : Rule.results term reducer.space.rules with
  | error circular => simp [results] at gathered
  | ok values =>
    rw [results] at gathered
    cases values with
    | cons first others => exact gathers_of_results results (Except.ok.inj gathered)
    | nil =>
      cases stepped : reducer.step term with
      | error problem => simp [stepped] at gathered
      | ok outcome =>
        simp only [stepped, Except.ok.injEq, Option.ite_none_right_eq_some, Option.some.injEq] at gathered
        obtain ⟨applied, rfl⟩ := gathered
        exact gathers_of_call (Rule.results_eq_nil_iff.1 results) stepped applied

/-- **One step and all of its results.** Gathering fails just where the step does and with the same error.  It
has no outcome where the step has none, and also where a match after the first one that succeeds has none.  It
finds nothing just where the step reports that nothing applies.  What it finds otherwise begins with the result
of the step, and is one result for each rule that matches, in the order of the rules, or the result of the
grounded call alone. -/
theorem alternatives_step (reducer : Reducer) (term : Term) :
    (∀ problem, (∀ circular, problem ≠ .matching circular) →
      (reducer.alternatives term = .error problem ↔ reducer.step term = .error problem)) ∧
    (∀ circular, reducer.alternatives term = .error (.matching circular) ↔
      reducer.step term = .error (.matching circular) ∨
        Rule.EndlessLater term reducer.space.rules circular) ∧
    (reducer.alternatives term = .ok none ↔ reducer.Stops term) ∧
    ∀ branch, reducer.alternatives term = .ok (some branch) → reducer.Gathers term branch := by
  refine ⟨fun problem returns => ?_, fun circular => ?_, alternatives_eq_none_iff,
    fun _ => gathers_of_alternatives⟩
  · rw [alternatives_eq_error_iff, or_iff_left]
    rintro ⟨circular, endless, -⟩
    exact returns circular endless
  · simp [alternatives_eq_error_iff]

/-- The rules `(coin) → heads` and `(coin) → tails`, the second one native, and no grounded function. -/
def coin : Reducer where
  space := (Space.empty.addRule ⟨.compound "coin" [], .template (.atom "heads")⟩).addRule
    ⟨.compound "coin" [], .native fun _ => .atom "tails"⟩
  registry := ∅
  maxSteps := 1

/-- Both rules match `(coin)`, and the call of a function that is not there fails in both ways. -/
theorem alternatives_step_coin :
    coin.Gathers (.compound "coin" []) (.super [.atom "heads", .atom "tails"]) ∧
    coin.alternatives (.apply (.atom "&toss") []) = .error (.grounded (.notFound "&toss")) :=
  ⟨(alternatives_step coin (.compound "coin" [])).2.2.2 _ rfl,
    ((alternatives_step coin (.apply (.atom "&toss") [])).1 _ (by simp)).2 rfl⟩

/-- The rules `(f $a $b) → first` and `(f $x $x) → second`, and no grounded function. -/
def firstOrSecond : Reducer where
  space := (Space.empty.addRule ⟨.compound "f" [.atom "$a", .atom "$b"], .template (.atom "first")⟩).addRule
    ⟨.compound "f" [.atom "$x", .atom "$x"], .template (.atom "second")⟩
  registry := ∅
  maxSteps := 1

/-- **A step does not try the rules after the one that it applies, and gathering does.** At `(f $x a)` the second rule
binds `$x` to itself and goes round in circles. -/
theorem alternatives_firstOrSecond :
    firstOrSecond.step (.compound "f" [.atom "$x", .atom "a"]) = .ok ⟨.atom "first", true⟩ ∧
    firstOrSecond.alternatives (.compound "f" [.atom "$x", .atom "a"]) =
      .error (.matching (.circular "$x")) := ⟨rfl, rfl⟩

end Reducer

end TermSpace
