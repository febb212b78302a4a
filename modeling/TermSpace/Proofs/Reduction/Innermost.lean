import TermSpace.Proofs.Term.Occurrences
import TermSpace.Reduction.Step

/-!
# Leftmost-innermost contraction

A redex is a part of a term that the pattern of some rule matches or that calls a grounded function.  The
first redex in post-order is the leftmost one among the innermost, and contracting it with one step of the
reducer is one step of leftmost-innermost rewriting.  This is a relation between whole terms that knows
nothing of budgets or of the order in which a program goes through a term.

A part is *quiet* when no rule matches it, with the outcome of each match in hand, and no function is
called.  A term is *normal* when all of its parts are quiet; it has no redex then.
-/

namespace TermSpace

set_option autoImplicit false

/-- Whether the pattern of a rule matches a term. -/
def Rule.matches (rule : Rule) (term : Term) : Bool :=
  match Matching.find rule.pattern term with
  | .ok (some _) => true
  | _ => false

namespace Reducer

/-- **Redexes.** Some rule matches, or a grounded function is called. -/
def isRedex (reducer : Reducer) (term : Term) : Bool :=
  reducer.space.rules.any (·.matches term) || term.groundedCall?.isSome

/-- The first redex in post-order, with the context in which it stands. -/
def firstRedex? (reducer : Reducer) (term : Term) : Option (Term.Context × Term) :=
  term.occurrences.find? fun occurrence => reducer.isRedex occurrence.2

/-- **Contraction of the first redex** by one step of the reducer. -/
def Contracts (reducer : Reducer) (term next : Term) : Prop :=
  ∃ context redex reduct, reducer.firstRedex? term = some (context, redex) ∧
    reducer.step redex = .ok ⟨reduct, true⟩ ∧ next = context.fill reduct

/-- So many contractions of the first redex, one after the other. -/
inductive ContractsIn (reducer : Reducer) : Nat → Term → Term → Prop where
  | zero (term : Term) : ContractsIn reducer 0 term term
  | succ {count : Nat} {term next last : Term} (first : reducer.Contracts term next)
      (others : ContractsIn reducer count next last) : ContractsIn reducer (count + 1) term last

/-- The redex is no instance of a rule, and the function that it calls fails. -/
def CallFails (reducer : Reducer) (redex : Term) (problem : GroundedError) : Prop :=
  (∀ rule ∈ reducer.space.rules, ¬ rule.matches redex) ∧
    ∃ name arguments, redex.groundedCall? = some (name, arguments) ∧
      reducer.registry.execute reducer.space name arguments = .error problem

/-- Matching is done with the term, no rule matches it, and it calls no function. -/
def Quiet (reducer : Reducer) (term : Term) : Prop := reducer.applies term = .ok false

/-- All parts are quiet. -/
def Normal (reducer : Reducer) (term : Term) : Prop := ∀ part, Term.Part part term → reducer.Quiet part

end Reducer

/-! ## Rules -/

namespace Rule

/-- The first rule that matches is one of the rules, and matches. -/
theorem first?_eq_some {term : Term} {rule : Rule} {bindings : Bindings} :
    ∀ {rules : List Rule}, first? term rules = .ok (some (rule, bindings)) →
      rule ∈ rules ∧ Matching.find rule.pattern term = .ok (some bindings)
  | [], found => by cases found
  | other :: rest, found => by
    rw [first?] at found
    split at found
    · cases found
    · next here =>
      cases found
      exact ⟨List.mem_cons_self, here⟩
    · have ⟨member, there⟩ := first?_eq_some found
      exact ⟨List.mem_cons_of_mem _ member, there⟩

/-- There is no first rule that matches if each of them is tried and fails. -/
theorem first?_eq_none {term : Term} :
    ∀ {rules : List Rule}, first? term rules = .ok none ↔
      ∀ rule ∈ rules, Matching.find rule.pattern term = .ok none
  | [] => by simp [first?]
  | rule :: rest => by
    rw [first?, List.forall_mem_cons]
    cases here : Matching.find rule.pattern term with
    | error problem => simp
    | ok answer =>
      cases answer with
      | some bindings => simp
      | none => simpa using first?_eq_none

theorem first?_eq_error {term : Term} {problem : MatchError} :
    ∀ {rules : List Rule}, first? term rules = .error problem →
      ∃ rule ∈ rules, Matching.find rule.pattern term = .error problem
  | [], found => by cases found
  | rule :: rest, found => by
    rw [first?] at found
    split at found
    · next here =>
      cases found
      exact ⟨rule, List.mem_cons_self, here⟩
    · cases found
    · obtain ⟨other, member, there⟩ := first?_eq_error found
      exact ⟨other, List.mem_cons_of_mem _ member, there⟩

/-- Later rules are tried where none of those before them matches. -/
theorem first?_append (term : Term) (later : List Rule) : ∀ earlier : List Rule,
    first? term (earlier ++ later) =
      match first? term earlier with
      | .ok none => first? term later
      | outcome => outcome
  | [] => rfl
  | rule :: rest => by
    rw [List.cons_append, first?, first?]
    cases here : Matching.find rule.pattern term with
    | error problem => rfl
    | ok answer =>
      cases answer with
      | some bindings => rfl
      | none => exact first?_append term later rest

theorem matches_of_find {rule : Rule} {term : Term} {bindings : Bindings}
    (found : Matching.find rule.pattern term = .ok (some bindings)) : rule.matches term := by
  simp [Rule.matches, found]

theorem not_matches_of_find {rule : Rule} {term : Term}
    (failed : Matching.find rule.pattern term = .ok none) : ¬ rule.matches term := by
  simp [Rule.matches, failed]

/-- The result of a step is the instance of the rule, in whatever form it is kept. -/
theorem toTerm_reduct (rule : Rule) (bindings : Bindings) :
    (rule.reduct bindings).toTerm = rule.body.instantiate bindings := by
  obtain ⟨pattern, body⟩ := rule
  cases body with
  | native compute => rfl
  | template template => cases pattern <;> rfl

end Rule

/-! ## What a step can do -/

namespace Reducer

variable {reducer : Reducer} {term : Term}

theorem quiet_iff : reducer.Quiet term ↔
    (∀ rule ∈ reducer.space.rules, Matching.find rule.pattern term = .ok none) ∧
      term.groundedCall? = none := by
  rw [Quiet, applies, ← Rule.first?_eq_none]
  cases found : Rule.first? term reducer.space.rules with
  | error problem => simp
  | ok answer =>
    cases answer with
    | some pair => simp
    | none => simp

/-- What is quiet is no redex. -/
theorem Quiet.not_isRedex (quiet : reducer.Quiet term) : ¬ reducer.isRedex term := by
  obtain ⟨unmatched, uncalled⟩ := quiet_iff.1 quiet
  simp only [isRedex, uncalled, Option.isSome_none, Bool.or_false, List.any_eq_true, not_exists,
    not_and]
  exact fun rule member => Rule.not_matches_of_find (unmatched rule member)

theorem Quiet.fire (quiet : reducer.Quiet term) : reducer.fire term = .ok none := by
  obtain ⟨unmatched, uncalled⟩ := quiet_iff.1 quiet
  rw [Reducer.fire, Rule.first?_eq_none.2 unmatched, uncalled]

/-- What is quiet is answered at the bound. -/
theorem Quiet.atBound (quiet : reducer.Quiet term) (steps : Nat) :
    reducer.atBound term steps = .ok term := by
  rw [Reducer.atBound, show reducer.applies term = .ok false from quiet]

theorem Normal.not_isRedex (normal : reducer.Normal term) {part : Term}
    (inside : Term.Part part term) : ¬ reducer.isRedex part := (normal part inside).not_isRedex

/-- A term is normal if it is quiet and its components are normal. -/
theorem normal_of_components (quiet : reducer.Quiet term)
    (components : ∀ component ∈ term.components, reducer.Normal component) :
    reducer.Normal term := by
  intro part inside
  cases inside with
  | whole => exact quiet
  | inside member deeper => exact components _ member _ deeper

/-- **Outcomes of firing.** If nothing fires the term is quiet; what fires is a redex, and the step of the
reducer is the same; a call that fails is that of a redex that no rule matches; and otherwise the match of
some rule has no outcome. -/
theorem fire_spec (reducer : Reducer) (term : Term) :
    match reducer.fire term with
    | .ok none => reducer.Quiet term
    | .ok (some reduct) =>
      reducer.isRedex term ∧ reducer.step term = .ok ⟨reduct.toTerm, true⟩
    | .error (.grounded problem) => reducer.isRedex term ∧ reducer.CallFails term problem
    | .error (.matching problem) =>
      ∃ rule ∈ reducer.space.rules, Matching.find rule.pattern term = .error problem
    | .error (.stepLimit _ _) => False := by
  cases found : Rule.first? term reducer.space.rules with
  | error problem => simpa [fire, found] using Rule.first?_eq_error found
  | ok answer =>
    cases answer with
    | some pair =>
      obtain ⟨rule, bindings⟩ := pair
      have ⟨member, matched⟩ := Rule.first?_eq_some found
      have redex : reducer.isRedex term := by
        rw [isRedex, Bool.or_eq_true, List.any_eq_true]
        exact .inl ⟨rule, member, Rule.matches_of_find matched⟩
      simp [fire, step, found, redex]
    | none =>
      have unmatched := Rule.first?_eq_none.1 found
      cases call : term.groundedCall? with
      | none => simpa [fire, found, call] using quiet_iff.2 ⟨unmatched, call⟩
      | some pair =>
        obtain ⟨name, arguments⟩ := pair
        have redex : reducer.isRedex term := by simp [isRedex, call]
        cases result : reducer.registry.execute reducer.space name arguments with
        | error problem =>
          simp only [fire, found, call, result]
          refine ⟨redex, fun rule member => ?_, name, arguments, call, result⟩
          exact Rule.not_matches_of_find (unmatched rule member)
        | ok value => simp [fire, step, found, call, result, redex]

/-- The test at the bound agrees: it tells the quiet terms from the redexes, unless the match of a rule has
no outcome. -/
theorem applies_spec (reducer : Reducer) (term : Term) :
    match reducer.applies term with
    | .ok false => reducer.Quiet term
    | .ok true => reducer.isRedex term
    | .error problem => ∃ circular, problem = .matching circular ∧
      ∃ rule ∈ reducer.space.rules, Matching.find rule.pattern term = .error circular := by
  cases found : Rule.first? term reducer.space.rules with
  | error problem => simpa [applies, found] using Rule.first?_eq_error found
  | ok answer =>
    cases answer with
    | some pair =>
      have ⟨member, matched⟩ := Rule.first?_eq_some found
      simp only [applies, found]
      rw [isRedex, Bool.or_eq_true, List.any_eq_true]
      exact .inl ⟨pair.1, member, Rule.matches_of_find matched⟩
    | none =>
      simp only [applies, found]
      cases call : term.groundedCall? with
      | none => exact quiet_iff.2 ⟨Rule.first?_eq_none.1 found, call⟩
      | some pair =>
        show reducer.isRedex term
        rw [isRedex, call, Option.isSome_some, Bool.or_true]

/-- A call that fails is no step. -/
theorem CallFails.step_ne {problem : GroundedError} (fails : reducer.CallFails term problem)
    (reduct : Term) : reducer.step term ≠ .ok ⟨reduct, true⟩ := by
  obtain ⟨unmatched, name, arguments, call, result⟩ := fails
  cases found : Rule.first? term reducer.space.rules with
  | error problem => simp [step, fire, found]
  | ok answer =>
    cases answer with
    | some pair =>
      have ⟨member, matched⟩ := Rule.first?_eq_some found
      exact absurd (Rule.matches_of_find matched) (unmatched _ member)
    | none => simp [step, fire, found, call, result]

theorem CallFails.unique {problem other : GroundedError} (first : reducer.CallFails term problem)
    (second : reducer.CallFails term other) : problem = other := by
  obtain ⟨_, name, arguments, call, result⟩ := first
  obtain ⟨_, name', arguments', call', result'⟩ := second
  rw [call] at call'
  cases call'
  rw [result] at result'
  cases result'
  rfl

/-! ## The first redex -/

/-- There is no first redex in a term without redexes. -/
theorem firstRedex?_eq_none : reducer.firstRedex? term = none ↔
    ∀ part, Term.Part part term → ¬ reducer.isRedex part :=
  Term.find?_occurrences_eq_none

/-- The first redex is a part of the term. -/
theorem part_of_firstRedex? {context : Term.Context} {redex : Term}
    (first : reducer.firstRedex? term = some (context, redex)) : redex.Part term :=
  Term.mem_occurrences_iff.1 ⟨context, List.mem_of_find?_eq_some first⟩

/-- It fills the hole of its context. -/
theorem fill_of_firstRedex? {context : Term.Context} {redex : Term}
    (first : reducer.firstRedex? term = some (context, redex)) : context.fill redex = term :=
  Term.fill_of_mem_occurrences term (List.mem_of_find?_eq_some first)

/-- A redex with normal components is the first one. -/
theorem firstRedex?_here (redex : reducer.isRedex term)
    (components : ∀ component ∈ term.components, reducer.Normal component) :
    reducer.firstRedex? term = some (.hole, term) :=
  Term.find?_occurrences_here redex fun component member _ inside =>
    (components component member).not_isRedex inside

/-- The first redex of a component is that of the compound if the components before are normal. -/
theorem firstRedex?_inside {operator : String} {before after : List Term} {component redex : Term}
    {context : Term.Context} (normal : ∀ earlier ∈ before, reducer.Normal earlier)
    (there : reducer.firstRedex? component = some (context, redex)) :
    reducer.firstRedex? (.compound operator (before ++ component :: after)) =
      some (.inside operator before context after, redex) :=
  Term.find?_occurrences_inside
    (fun earlier member _ inside => (normal earlier member).not_isRedex inside) there

/-! ## Contractions -/

/-- Contraction is a function. -/
theorem Contracts.unique {next other : Term} (first : reducer.Contracts term next)
    (second : reducer.Contracts term other) : next = other := by
  obtain ⟨context, redex, reduct, found, stepped, rfl⟩ := first
  obtain ⟨context', redex', reduct', found', stepped', rfl⟩ := second
  rw [found] at found'
  cases found'
  rw [stepped] at stepped'
  cases stepped'
  rfl

/-- Contraction in a component contracts the compound if the components before are normal. -/
theorem Contracts.inside {operator : String} {before after : List Term} {next : Term}
    (normal : ∀ earlier ∈ before, reducer.Normal earlier) (contracts : reducer.Contracts term next) :
    reducer.Contracts (.compound operator (before ++ term :: after))
      (.compound operator (before ++ next :: after)) := by
  obtain ⟨context, redex, reduct, found, stepped, rfl⟩ := contracts
  exact ⟨_, redex, reduct, firstRedex?_inside normal found, stepped, rfl⟩

namespace ContractsIn

theorem trans {first second : Nat} {middle last : Term}
    (start : reducer.ContractsIn first term middle) (rest : reducer.ContractsIn second middle last) :
    reducer.ContractsIn (first + second) term last := by
  induction start with
  | zero => simpa using rest
  | succ contracts _ ih =>
    rw [Nat.add_right_comm]
    exact .succ contracts (ih rest)

theorem inside {operator : String} {before after : List Term} {count : Nat} {last : Term}
    (normal : ∀ earlier ∈ before, reducer.Normal earlier)
    (contracts : reducer.ContractsIn count term last) :
    reducer.ContractsIn count (.compound operator (before ++ term :: after))
      (.compound operator (before ++ last :: after)) := by
  induction contracts with
  | zero => exact .zero _
  | succ first _ ih => exact .succ (first.inside normal) ih

/-- Of two runs from one term the longer one goes on where the shorter one ends. -/
theorem continues {count further : Nat} {middle last : Term}
    (short : reducer.ContractsIn count term middle)
    (long : reducer.ContractsIn (count + further) term last) :
    reducer.ContractsIn further middle last := by
  induction short with
  | zero => simpa using long
  | succ first _ ih =>
    rw [Nat.add_right_comm] at long
    cases long with
    | succ first' others =>
      cases first.unique first'
      exact ih others

end ContractsIn

end Reducer

end TermSpace
