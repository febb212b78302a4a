import TermSpace.Proofs.Grounded.Closed
import TermSpace.Proofs.Reduction.Normalization
import TermSpace.Proofs.Reduction.TopNode

/-!
# Evaluation of closed terms

Matching may lead round in a circle, but it does not against a term without variables: it comes to an end then,
and binds the variables of the pattern to parts of the term, which are closed (`returns_find`).  Evaluation of
a closed term therefore comes to an end as long as every step leads from a closed term to a closed term.  That
takes rules and functions which bring in no variables of their own (`Reducer.KeepsClosed`), and it does not
matter which atoms the space has.

One step keeps a term closed, at the top node (`closed_of_step`) and at the first redex (`Contracts.closed`),
and so do runs of any length.  What reduction and normalization answer is told by such runs, so that both come
to an end, and all that they answer with is closed (`evaluation_closed`).
-/

namespace TermSpace

set_option autoImplicit false

/-! ## Closed terms -/

namespace Term

theorem Closed.part {part term : Term} (closed : term.Closed) (inside : part.Part term) :
    part.Closed := by
  induction inside with
  | whole => exact closed
  | inside member _ ih => exact ih (closed_compound.1 closed _ member)

/-- What fills a hole may be replaced by anything closed. -/
theorem Closed.fill {first second : Term} {context : Context} (closed : (context.fill first).Closed)
    (closedSecond : second.Closed) : (context.fill second).Closed := by
  induction context with
  | hole => exact closedSecond
  | inside operator before inner after ih =>
    rw [Context.fill, closed_compound] at closed ⊢
    intro component member
    simp only [List.mem_append, List.mem_cons] at closed member
    rcases member with earlier | rfl | later
    · exact closed component (.inl earlier)
    · exact ih (closed _ (.inr (.inl rfl)))
    · exact closed component (.inr (.inr later))

/-- The arguments of a call are parts of the term. -/
theorem Closed.groundedCall {term : Term} {name : String} {arguments : List Term}
    (closed : term.Closed) (call : term.groundedCall? = some (name, arguments)) :
    ∀ argument ∈ arguments, argument.Closed := by
  simp only [groundedCall?, application?] at call
  split at call
  · next applies =>
    split at applies
    · next operator head list =>
      simp only [Option.ite_none_right_eq_some, Option.some.injEq, Prod.mk.injEq] at applies call
      obtain ⟨-, rfl, rfl⟩ := applies
      obtain ⟨-, -, rfl⟩ := call
      have listClosed : list.Closed := closed_compound.1 closed list (by simp)
      cases list with
      | atom other => simp [components]
      | compound other components => exact closed_compound.1 listClosed
    · cases applies
  · cases call

end Term

/-- All terms of the bindings are closed. -/
def Bindings.Closed (bindings : Bindings) : Prop :=
  ∀ name value, bindings.get? name = some value → value.Closed

/-! ## Matching closed terms -/

/-- **Matching a closed term comes to an end.** If it succeeds, all variables of the pattern have terms, and
these are closed. -/
theorem Matching.returns_find (pattern : Term) {term : Term} (closed : term.Closed) :
    ∃ answer, Matching.find pattern term = .ok answer ∧ ∀ bindings, answer = some bindings →
      bindings.Closed ∧ ∀ name ∈ pattern.variableOccurrences, bindings.contains name := by
  have tame : Tame pattern.variableOccurrences [term] ∅ :=
    ⟨.inl (by simpa using closed), fun name _ value bound => by cases bound⟩
  have answers := answers_extend pattern term ∅ tame
  cases outcome : extend pattern term ∅ with
  | error problem =>
    rw [outcome] at answers
    exact answers.elim
  | ok answer =>
    refine ⟨answer, outcome, ?_⟩
    rintro bindings rfl
    rw [outcome] at answers
    refine ⟨fun name value bound => ?_, fun name member => (answers.binds name).2 (.inr member)⟩
    rcases extend_values outcome bound with start | ⟨-, inside⟩
    · cases start
    · exact closed.part inside

/-! ## Rules -/

/-- The rule makes closed terms of closed bindings: its template has no variables but those of its pattern, or
its native function does so by itself. -/
def Rule.KeepsClosed (rule : Rule) : Prop :=
  match rule.body with
  | .template template =>
    ∀ name ∈ template.variableOccurrences, name ∈ rule.pattern.variableOccurrences
  | .native compute => ∀ bindings : Bindings, bindings.Closed → (compute bindings).Closed

/-- An instance is closed if all variables have closed terms. -/
theorem Bindings.Closed.substitute {bindings : Bindings} (closed : bindings.Closed) {template : Term}
    (known : ∀ name ∈ template.variableOccurrences, bindings.contains name) :
    (template.substitute bindings).Closed := by
  rw [Term.Closed, Term.variableOccurrences_substitute, List.flatMap_eq_nil_iff]
  intro name occurs
  obtain ⟨value, bound⟩ := Option.isSome_iff_exists.1 (known name occurs)
  rw [Bindings.image_of_get? bound]
  exact closed name value bound

theorem Rule.KeepsClosed.instantiate {rule : Rule} (keeps : rule.KeepsClosed) {term : Term}
    (closed : term.Closed) {bindings : Bindings}
    (found : Matching.find rule.pattern term = .ok (some bindings)) :
    (rule.body.instantiate bindings).Closed := by
  obtain ⟨answer, outcome, spec⟩ := Matching.returns_find rule.pattern closed
  rw [outcome] at found
  cases found
  obtain ⟨closedBindings, known⟩ := spec bindings rfl
  obtain ⟨pattern, body⟩ := rule
  cases body with
  | template template => exact closedBindings.substitute fun name occurs => known name (keeps name occurs)
  | native compute => exact keeps bindings closedBindings

namespace Reducer

/-- Nothing that terms are reduced with brings in variables. -/
structure KeepsClosed (reducer : Reducer) : Prop where
  rules : ∀ rule ∈ reducer.space.rules, rule.KeepsClosed
  functions : reducer.registry.KeepsClosed reducer.space

variable {reducer : Reducer} {term next last : Term} {count : Nat}

/-! ## Steps and runs -/

/-- **A step at the top node keeps a term closed.** -/
theorem closed_of_step (keeps : reducer.KeepsClosed) (closed : term.Closed)
    (stepped : reducer.step term = .ok ⟨next, true⟩) : next.Closed := by
  obtain ⟨reduct, fired, rfl⟩ := step_eq_applied_iff.1 stepped
  rw [fire] at fired
  cases found : Rule.first? term reducer.space.rules with
  | error problem => simp [found] at fired
  | ok answer =>
    cases answer with
    | some pair =>
      obtain ⟨rule, bindings⟩ := pair
      obtain ⟨member, outcome⟩ := Rule.first?_eq_some found
      simp only [found, Except.ok.injEq, Option.some.injEq] at fired
      subst fired
      rw [Rule.toTerm_reduct]
      exact (keeps.rules rule member).instantiate closed outcome
    | none =>
      rw [found] at fired
      cases call : term.groundedCall? with
      | none => simp [call] at fired
      | some pair =>
        obtain ⟨name, arguments⟩ := pair
        have returns := keeps.functions.execute name (closed.groundedCall call)
        cases result : reducer.registry.execute reducer.space name arguments with
        | error problem => simp [call, result] at fired
        | ok value =>
          simp only [call, result, Except.ok.injEq, Option.some.injEq] at fired
          subst fired
          rwa [result] at returns

theorem StepsIn.closed (keeps : reducer.KeepsClosed) (steps : reducer.StepsIn count term last)
    (closed : term.Closed) : last.Closed := by
  induction steps with
  | zero => exact closed
  | succ first _ ih => exact ih (closed_of_step keeps closed first)

/-- **Contraction keeps a term closed.** -/
theorem Contracts.closed (keeps : reducer.KeepsClosed) (contracts : reducer.Contracts term next)
    (closed : term.Closed) : next.Closed := by
  obtain ⟨context, redex, reduct, first, stepped, rfl⟩ := contracts
  have redexClosed := closed.part (part_of_firstRedex? first)
  rw [← fill_of_firstRedex? first] at closed
  exact closed.fill (closed_of_step keeps redexClosed stepped)

theorem ContractsIn.closed (keeps : reducer.KeepsClosed)
    (contracts : reducer.ContractsIn count term last) (closed : term.Closed) : last.Closed := by
  induction contracts with
  | zero => exact closed
  | succ first _ ih => exact ih (first.closed keeps closed)

/-! ## Outcomes -/

/-- An evaluation that comes to an end and answers with nothing but closed terms. -/
def EndsClosed : Except ReduceError Term → Prop
  | .ok result => result.Closed
  | .error (.stepLimit last _) => last.Closed
  | .error (.grounded problem) => ∀ circular, problem ≠ .matching circular
  | .error (.matching _) => False

theorem CallFails.ne_matching (keeps : reducer.KeepsClosed) (closed : term.Closed)
    {problem : GroundedError} (fails : reducer.CallFails term problem) (circular : MatchError) :
    problem ≠ .matching circular := by
  rintro rfl
  obtain ⟨-, name, arguments, call, result⟩ := fails
  have returns := keeps.functions.execute name (closed.groundedCall call)
  rw [result] at returns
  exact returns

theorem find_ne_error (closed : term.Closed) {rule : Rule} {problem : MatchError} :
    Matching.find rule.pattern term ≠ .error problem := by
  obtain ⟨answer, outcome, -⟩ := Matching.returns_find rule.pattern closed
  rw [outcome]
  exact nofun

theorem endsClosed_reduce (keeps : reducer.KeepsClosed) (closed : term.Closed) :
    EndsClosed (reducer.reduce term) := by
  have answers := answers_reduceWithin reducer reducer.maxSteps term
  rw [reduce]
  cases outcome : reducer.reduceWithin reducer.maxSteps term with
  | ok result =>
    rw [outcome] at answers
    obtain ⟨count, -, steps, -⟩ := answers
    exact steps.closed keeps closed
  | error problem =>
    rw [outcome] at answers
    cases problem with
    | stepLimit last steps => exact answers.1.closed keeps closed
    | grounded problem =>
      obtain ⟨count, -, reached, steps, fails⟩ := answers
      exact fails.ne_matching keeps (steps.closed keeps closed)
    | matching problem =>
      obtain ⟨count, -, reached, steps, rule, -, circular⟩ := answers
      exact find_ne_error (steps.closed keeps closed) circular

theorem endsClosed_normalize (keeps : reducer.KeepsClosed) (closed : term.Closed) :
    EndsClosed (reducer.normalize term) := by
  obtain ⟨outcome, run, same⟩ := run_normalize reducer term
  rw [same]
  cases outcome with
  | ok result =>
    obtain ⟨count, -, -, contracts, -⟩ := run
    exact contracts.closed keeps closed
  | error problem =>
    cases problem with
    | stepLimit last steps =>
      obtain ⟨-, count, reached, context, -, contracts, first⟩ := run
      exact (contracts.closed keeps closed).part (part_of_firstRedex? first)
    | grounded problem =>
      obtain ⟨count, reached, context, redex, -, contracts, first, fails⟩ := run
      have redexClosed := (contracts.closed keeps closed).part (part_of_firstRedex? first)
      exact fails.ne_matching keeps redexClosed
    | matching problem =>
      obtain ⟨count, reached, part, -, contracts, inside, rule, -, circular⟩ := run
      exact find_ne_error ((contracts.closed keeps closed).part inside) circular

/-- **Evaluation of a closed term comes to an end, and with closed terms only.** If the rules and the functions
bring in no variables, no match that reduction or normalization makes goes round in a circle, and the result,
or the term at which the bound on steps is reached, is closed.  The functions that are always there bring in
no variables. -/
theorem evaluation_closed :
    (∀ space, Builtins.registry.KeepsClosed space) ∧
    ∀ (reducer : Reducer) (term : Term), reducer.KeepsClosed → term.Closed →
      EndsClosed (reducer.reduce term) ∧ EndsClosed (reducer.normalize term) :=
  ⟨Builtins.keepsClosed, fun _ _ keeps closed =>
    ⟨endsClosed_reduce keeps closed, endsClosed_normalize keeps closed⟩⟩

/-- A template rule that asks the space for what it is about, and a native one, next to an atom with a
variable. -/
def asking (maxSteps : Nat) : Reducer where
  space := ((Space.empty.addAtom (.compound "pair" [.atom "$y", .atom "b"])).2.addRule
      ⟨.compound "f" [.atom "$x"],
        .template (.apply (.atom "&match") [.atom "&self", .atom "$x", .atom "$x"])⟩).addRule
    ⟨.compound "g" [.atom "$x"], .native fun bindings => (bindings.get? "$x").getD (.atom "none")⟩
  registry := Builtins.registry
  maxSteps

theorem keepsClosed_asking (maxSteps : Nat) : (asking maxSteps).KeepsClosed := by
  refine ⟨?_, Builtins.keepsClosed _⟩
  intro rule member
  have either : rule ∈ [_, _] := member
  rcases List.mem_pair.1 either with rfl | rfl
  · exact show ∀ name ∈ _, name ∈ _ by decide
  · intro bindings closed
    show ((bindings.get? "$x").getD (.atom "none")).Closed
    cases bound : bindings.get? "$x" with
    | none => decide
    | some value => exact closed "$x" value bound

/-- Both ways to evaluate `(g (f (pair a b)))` in two steps end with closed terms. -/
theorem evaluation_closed_asking :
    (asking 2).KeepsClosed ∧
    EndsClosed ((asking 2).reduce
      (.compound "g" [.compound "f" [.compound "pair" [.atom "a", .atom "b"]]])) ∧
    EndsClosed ((asking 2).normalize
      (.compound "g" [.compound "f" [.compound "pair" [.atom "a", .atom "b"]]])) :=
  ⟨keepsClosed_asking 2, evaluation_closed.2 (asking 2) _ (keepsClosed_asking 2) (by decide)⟩

end Reducer

end TermSpace
