import TermSpace.Proofs.Reduction.Innermost

/-!
# Reduction at the top node

Reduction applies steps at the top node, one after the other, and never looks below it.  It ends where
nothing applies any more, where a grounded call fails, or where the bound is reached and a step would still
apply; which of these it is, and at which term, is told by the steps alone (`reduce_topmost`).

Two tests say whether something applies.  Before the bound it is the attempt to make the step; at the bound
it is the match alone, and a call is not made.  Both tell the quiet terms from the redexes (`fire_spec`,
`applies_spec`), so that a term at the bound is judged as it would be before.

The number of steps that remain is the only thing that reduction keeps count of.  A stretch of steps uses up
as many of them (`reduceWithin_add`), and so an answer other than an exceeded bound stays the same when the
bound is raised.
-/

namespace TermSpace.Reducer

set_option autoImplicit false

variable {reducer : Reducer} {term : Term}

/-! ## Steps at the top node -/

/-- So many steps at the top node, one after the other, each of which applies. -/
inductive StepsIn (reducer : Reducer) : Nat → Term → Term → Prop where
  | zero (term : Term) : StepsIn reducer 0 term term
  | succ {count : Nat} {term next last : Term} (first : reducer.step term = .ok ⟨next, true⟩)
      (others : StepsIn reducer count next last) : StepsIn reducer (count + 1) term last

/-- The attempt to make a step succeeds and reports that nothing applies. -/
def Stops (reducer : Reducer) (term : Term) : Prop :=
  ∃ outcome, reducer.step term = .ok outcome ∧ outcome.applied = false

/-- A step that applies is one that fires. -/
theorem step_eq_applied_iff {next : Term} : reducer.step term = .ok ⟨next, true⟩ ↔
    ∃ reduct, reducer.fire term = .ok (some reduct) ∧ reduct.toTerm = next := by
  rw [step]
  cases reducer.fire term with
  | error problem => simp
  | ok answer => cases answer <;> simp

/-- The attempt to make a step reports that nothing applies just where the term is quiet. -/
theorem stops_iff_quiet : reducer.Stops term ↔ reducer.Quiet term := by
  constructor
  · rintro ⟨outcome, stepped, idle⟩
    have spec := fire_spec reducer term
    rw [step] at stepped
    cases fired : reducer.fire term with
    | error problem => simp [fired] at stepped
    | ok answer =>
      rw [fired] at stepped spec
      cases answer with
      | none => exact spec
      | some reduct =>
        cases stepped
        cases idle
  · intro quiet
    exact ⟨⟨term, false⟩, by rw [step, quiet.fire], rfl⟩

/-! ## Reduction along steps -/

/-- **Steps use up what remains.** After a stretch of steps reduction goes on from the term reached. -/
theorem reduceWithin_add {count : Nat} {reached : Term} (steps : reducer.StepsIn count term reached)
    (remaining : Nat) :
    reducer.reduceWithin (count + remaining) term = reducer.reduceWithin remaining reached := by
  induction steps with
  | zero term => rw [Nat.zero_add]
  | succ first _ ih =>
    obtain ⟨reduct, fired, rfl⟩ := step_eq_applied_iff.1 first
    rw [Nat.add_right_comm, reduceWithin, fired]
    exact ih

/-- A quiet term is its own result, at the bound as before it. -/
theorem reduceWithin_of_quiet (quiet : reducer.Quiet term) :
    ∀ remaining : Nat, reducer.reduceWithin remaining term = .ok term
  | 0 => by rw [reduceWithin, quiet.atBound]
  | remaining + 1 => by rw [reduceWithin, quiet.fire]

/-- What an answer means for the term that reduction starts from, where so many steps remain. -/
def Answers (reducer : Reducer) (remaining : Nat) (start : Term) : Except ReduceError Term → Prop
  | .ok result => ∃ count ≤ remaining, reducer.StepsIn count start result ∧ reducer.Stops result
  | .error (.stepLimit last steps) =>
    reducer.StepsIn remaining start last ∧ steps = reducer.maxSteps ∧ reducer.isRedex last
  | .error (.grounded problem) =>
    ∃ count < remaining, ∃ reached, reducer.StepsIn count start reached ∧
      reducer.CallFails reached problem
  | .error (.matching problem) =>
    ∃ count ≤ remaining, ∃ reached, reducer.StepsIn count start reached ∧
      ∃ rule ∈ reducer.space.rules, Matching.find rule.pattern reached = .error problem

/-- One step more in front of an answer. -/
theorem Answers.prepend {remaining : Nat} {next : Term} {answer : Except ReduceError Term}
    (first : reducer.step term = .ok ⟨next, true⟩) (answers : reducer.Answers remaining next answer) :
    reducer.Answers (remaining + 1) term answer := by
  match answer, answers with
  | .ok _, ⟨count, within, steps, stops⟩ =>
    exact ⟨count + 1, Nat.succ_le_succ within, .succ first steps, stops⟩
  | .error (.stepLimit _ _), ⟨steps, counted, redex⟩ => exact ⟨.succ first steps, counted, redex⟩
  | .error (.grounded _), ⟨count, below, reached, steps, fails⟩ =>
    exact ⟨count + 1, Nat.succ_lt_succ below, reached, .succ first steps, fails⟩
  | .error (.matching _), ⟨count, within, reached, steps, circular⟩ =>
    exact ⟨count + 1, Nat.succ_le_succ within, reached, .succ first steps, circular⟩

/-- At the bound. -/
theorem answers_atBound (reducer : Reducer) (term : Term) :
    reducer.Answers 0 term (reducer.atBound term reducer.maxSteps) := by
  have spec := applies_spec reducer term
  rw [atBound]
  cases outcome : reducer.applies term with
  | error problem =>
    rw [outcome] at spec
    obtain ⟨circular, rfl, rule, member, found⟩ := spec
    exact ⟨0, Nat.le_refl 0, term, .zero term, rule, member, found⟩
  | ok applied =>
    rw [outcome] at spec
    cases applied with
    | true => exact ⟨.zero term, rfl, spec⟩
    | false => exact ⟨0, Nat.le_refl 0, .zero term, stops_iff_quiet.2 spec⟩

/-- **Every answer of reduction means what it should.** -/
theorem answers_reduceWithin (reducer : Reducer) : ∀ (remaining : Nat) (term : Term),
    reducer.Answers remaining term (reducer.reduceWithin remaining term)
  | 0, term => answers_atBound reducer term
  | remaining + 1, term => by
    have spec := fire_spec reducer term
    rw [reduceWithin]
    cases fired : reducer.fire term with
    | error problem =>
      rw [fired] at spec
      cases problem with
      | stepLimit last steps => exact spec.elim
      | grounded problem => exact ⟨0, Nat.succ_pos remaining, term, .zero term, spec.2⟩
      | matching problem => exact ⟨0, Nat.zero_le _, term, .zero term, spec⟩
    | ok answer =>
      rw [fired] at spec
      cases answer with
      | none => exact ⟨0, Nat.zero_le _, .zero term, stops_iff_quiet.2 spec⟩
      | some reduct => exact (answers_reduceWithin reducer remaining reduct.toTerm).prepend spec.2

/-! ## Where reduction ends -/

/-- Nothing remains at a redex: the bound is exceeded, unless the match of a rule has no outcome. -/
theorem atBound_of_isRedex (redex : reducer.isRedex term) (steps : Nat)
    (returns : ∀ problem, reducer.atBound term steps ≠ .error (.matching problem)) :
    reducer.atBound term steps = .error (.stepLimit term steps) := by
  have spec := applies_spec reducer term
  rw [atBound] at returns ⊢
  cases outcome : reducer.applies term with
  | error problem =>
    rw [outcome] at spec returns
    obtain ⟨circular, rfl, _⟩ := spec
    exact absurd rfl (returns circular)
  | ok applied =>
    rw [outcome] at spec
    cases applied with
    | true => rfl
    | false => exact absurd redex spec.not_isRedex

/-- A call that fails ends reduction before the bound, unless the match of a rule has no outcome. -/
theorem reduceWithin_of_callFails {problem : GroundedError} (fails : reducer.CallFails term problem)
    (remaining : Nat)
    (returns : ∀ circular,
      reducer.reduceWithin (remaining + 1) term ≠ .error (.matching circular)) :
    reducer.reduceWithin (remaining + 1) term = .error (.grounded problem) := by
  have spec := fire_spec reducer term
  rw [reduceWithin] at returns ⊢
  cases fired : reducer.fire term with
  | error other =>
    rw [fired] at spec returns
    cases other with
    | stepLimit last steps => exact spec.elim
    | grounded other => rw [fails.unique spec.2]
    | matching circular => exact absurd rfl (returns circular)
  | ok answer =>
    rw [fired] at spec
    cases answer with
    | none =>
      obtain ⟨_, _, _, call, _⟩ := fails
      rw [(quiet_iff.1 spec).2] at call
      cases call
    | some reduct => exact absurd spec.2 (fails.step_ne reduct.toTerm)

/-- Where the test at the bound has no outcome, the attempt to make the step has none either. -/
theorem fire_of_applies_error {problem : ReduceError}
    (circular : reducer.applies term = .error problem) : reducer.fire term = .error problem := by
  rw [applies] at circular
  cases found : Rule.first? term reducer.space.rules with
  | error inner =>
    rw [found] at circular
    cases circular
    rw [fire, found]
  | ok answer =>
    rw [found] at circular
    cases answer <;> cases circular

/-- **Raising the bound** changes no answer but that the bound is exceeded. -/
theorem reduceWithin_larger (larger further : Nat) : ∀ (remaining : Nat) (term : Term),
    (∀ last steps, reducer.reduceWithin remaining term ≠ .error (.stepLimit last steps)) →
    { reducer with maxSteps := larger }.reduceWithin (remaining + further) term =
      reducer.reduceWithin remaining term
  | 0, term, unlimited => by
    rw [reduceWithin, atBound] at unlimited ⊢
    cases outcome : reducer.applies term with
    | error problem =>
      rw [Nat.zero_add]
      cases further with
      | zero =>
        have same : { reducer with maxSteps := larger }.applies term = .error problem := outcome
        rw [reduceWithin, atBound, same]
      | succ further =>
        have same : { reducer with maxSteps := larger }.fire term = .error problem :=
          fire_of_applies_error outcome
        rw [reduceWithin, same]
    | ok applied =>
      rw [outcome] at unlimited
      cases applied with
      | true => exact absurd rfl (unlimited term reducer.maxSteps)
      | false =>
        have quiet : { reducer with maxSteps := larger }.Quiet term := outcome
        exact reduceWithin_of_quiet quiet _
  | remaining + 1, term, unlimited => by
    rw [Nat.add_right_comm, reduceWithin, reduceWithin]
    rw [reduceWithin] at unlimited
    have same : { reducer with maxSteps := larger }.fire term = reducer.fire term := rfl
    rw [same]
    cases fired : reducer.fire term with
    | error problem => rfl
    | ok answer =>
      rw [fired] at unlimited
      cases answer with
      | none => rfl
      | some reduct => exact reduceWithin_larger larger further remaining reduct.toTerm unlimited

/-! ## The statement -/

/-- **Reduction at the top node stops where nothing applies, or exactly at the bound.**  A result is reached
by steps within the bound, and nothing applies to it.  If the match of a rule has no outcome, it is one
against a term that steps lead to; otherwise the bound is exceeded just where all of its steps lead to a
redex, whatever calling it would give, and a call fails just where fewer steps lead to a term that no rule
matches and whose call fails.  A larger bound changes nothing else than that the bound is exceeded. -/
theorem reduce_topmost (reducer : Reducer) (term : Term) :
    (∀ result, reducer.reduce term = .ok result ↔
      ∃ count ≤ reducer.maxSteps, reducer.StepsIn count term result ∧ reducer.Stops result) ∧
    (∀ problem, reducer.reduce term = .error (.matching problem) →
      ∃ count ≤ reducer.maxSteps, ∃ reached, reducer.StepsIn count term reached ∧
        ∃ rule ∈ reducer.space.rules, Matching.find rule.pattern reached = .error problem) ∧
    ((∀ problem, reducer.reduce term ≠ .error (.matching problem)) →
      (∀ last steps, reducer.reduce term = .error (.stepLimit last steps) ↔
        reducer.StepsIn reducer.maxSteps term last ∧ steps = reducer.maxSteps ∧
          reducer.isRedex last) ∧
      ∀ problem, reducer.reduce term = .error (.grounded problem) ↔
        ∃ count < reducer.maxSteps, ∃ reached, reducer.StepsIn count term reached ∧
          reducer.CallFails reached problem) ∧
    ∀ larger, reducer.maxSteps ≤ larger →
      (∀ last steps, reducer.reduce term ≠ .error (.stepLimit last steps)) →
      { reducer with maxSteps := larger }.reduce term = reducer.reduce term := by
  have answers : reducer.Answers reducer.maxSteps term (reducer.reduce term) :=
    answers_reduceWithin reducer reducer.maxSteps term
  refine ⟨fun result => ⟨fun same => ?_, ?_⟩, fun problem same => ?_,
    fun returns => ⟨fun last steps => ⟨fun same => ?_, ?_⟩, fun problem => ⟨fun same => ?_, ?_⟩⟩,
    fun larger raised unlimited => ?_⟩
  · rwa [same] at answers
  · rintro ⟨count, within, steps, stops⟩
    obtain ⟨further, counted⟩ := Nat.exists_eq_add_of_le within
    rw [reduce, counted, reduceWithin_add steps]
    exact reduceWithin_of_quiet (stops_iff_quiet.1 stops) further
  · rwa [same] at answers
  · rwa [same] at answers
  · rintro ⟨steps, rfl, redex⟩
    have reached := reduceWithin_add steps 0
    rw [Nat.add_zero, reduceWithin] at reached
    rw [reduce, reached] at returns ⊢
    exact atBound_of_isRedex redex reducer.maxSteps returns
  · rwa [same] at answers
  · rintro ⟨count, below, reached, steps, fails⟩
    obtain ⟨further, counted⟩ := Nat.exists_eq_add_of_lt below
    rw [reduce, counted, Nat.add_assoc, reduceWithin_add steps] at returns ⊢
    exact reduceWithin_of_callFails fails further returns
  · obtain ⟨further, rfl⟩ := Nat.exists_eq_add_of_le raised
    exact reduceWithin_larger _ further reducer.maxSteps term unlimited

/-- The rules `(a) → (b)` and `(b) → (&nope 1)`, with so many steps allowed and no grounded function. -/
def failing (maxSteps : Nat) : Reducer where
  space := (Space.empty.addRule ⟨.compound "a" [], .template (.compound "b" [])⟩).addRule
    ⟨.compound "b" [], .template (.apply (.atom "&nope") [.atom "1"])⟩
  registry := ∅
  maxSteps

/-- Two steps lead from `(a)` to the call, which is not made if two is the bound and fails if it is three.
A bound of five changes nothing about that. -/
theorem reduce_topmost_failing :
    ((failing 2).StepsIn 2 (.compound "a" []) (.apply (.atom "&nope") [.atom "1"]) ∧ 2 = 2 ∧
      (failing 2).isRedex (.apply (.atom "&nope") [.atom "1"])) ∧
    (∃ count < 3, ∃ reached, (failing 3).StepsIn count (.compound "a" []) reached ∧
      (failing 3).CallFails reached (.notFound "&nope")) ∧
    (failing 5).reduce (.compound "a" []) = (failing 3).reduce (.compound "a" []) :=
  ⟨(((reduce_topmost (failing 2) (.compound "a" [])).2.2.1 nofun).1 _ _).1 rfl,
    (((reduce_topmost (failing 3) (.compound "a" [])).2.2.1 nofun).2 _).1 rfl,
    (reduce_topmost (failing 3) (.compound "a" [])).2.2.2 5 (by decide) nofun⟩

end TermSpace.Reducer
