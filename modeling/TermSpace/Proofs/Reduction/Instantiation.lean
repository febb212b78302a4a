import TermSpace.Proofs.Reduction.Normalization
import TermSpace.Proofs.Reduction.TopNode

/-!
# Putting values into a template while normalizing

Normalizing what a template rule gives puts the values into the template on the way, and goes through none of
them.  It comes to the same as substituting first and then normalizing the components of the instance: the same
term or the same error, with the same number of steps spent (`instantiation_agrees`).  The values must have no
redex in them, and those that a template rule supplies have none, since they are parts of the components of the
node that it matched.

A value without redexes can still be one that some pattern goes round in circles at.  The match of a rule
against it has no outcome then.  Going through the value meets this match, and skipping the value does not; that
is the one difference there can be (`Circles`).
-/

namespace TermSpace.Reducer

set_option autoImplicit false

/-! ## Values without redexes -/

/-- **Bindings whose values may be skipped:** they are terms without redexes, bound to variables. -/
structure Skippable (reducer : Reducer) (bindings : Bindings) : Prop where
  ofVariables : ∀ name value, bindings.get? name = some value → Term.isVariableName name = true
  redexFree : ∀ name value, bindings.get? name = some value → ∀ part, Term.Part part value →
    ¬ reducer.isRedex part

/-- Some rule goes round in circles at a part of a value. -/
inductive Circles (reducer : Reducer) (bindings : Bindings) : ReduceError → Prop where
  | value {name : String} {value part : Term} {rule : Rule} {problem : MatchError}
      (bound : bindings.get? name = some value) (inside : part.Part value)
      (member : rule ∈ reducer.space.rules)
      (circular : Matching.find rule.pattern part = .error problem) :
      Circles reducer bindings (.matching problem)

variable {reducer : Reducer}

/-- Settling a node where the test at the bound has no outcome fails in that way, before the bound too. -/
theorem on_settle_of_applies_error {node : Term} {problem : ReduceError}
    (circular : reducer.applies node = .error problem) (remaining spent : Nat) :
    (Counting.settle reducer remaining node).on spent = (.error problem, spent) := by
  have atBound : reducer.atBound node spent = .error problem := by rw [Reducer.atBound, circular]
  cases remaining with
  | zero => rw [Counting.settle, Counting.on_ask, atBound]
  | succ remaining =>
    rw [Counting.settle, Counting.on_bind, Counting.on_ask]
    dsimp only
    split
    · rw [Counting.on_ask, atBound]
    · rw [Counting.on_bind, Counting.on_ask, fire_of_applies_error circular]

/-- Values without redexes may be skipped, but where a rule goes round in circles. -/
theorem Skippable.valuesSkipped {bindings : Bindings} (skippable : reducer.Skippable bindings)
    (remaining : Nat) :
    Counting.ValuesSkipped (reducer.Circles bindings) (Counting.settle reducer remaining) bindings := by
  intro name value bound part inside spent
  have calm := skippable.redexFree name value bound part inside
  have spec := reducer.applies_spec part
  cases applies : reducer.applies part with
  | error problem =>
    rw [applies] at spec
    obtain ⟨circular, rfl, rule, member, found⟩ := spec
    exact .inr ⟨_, spent, .value bound inside member found, on_settle_of_applies_error applies _ _⟩
  | ok answer =>
    rw [applies] at spec
    cases answer with
    | true => exact absurd spec calm
    | false =>
      rw [Counting.on_settle_of_quiet spec]
      exact .inl rfl

/-- The bindings of a template rule that fires at a node may be skipped if the components of the node have no
redexes: the values are parts of the components. -/
theorem skippable_of_fire {node template : Term} {bindings : Bindings}
    (calm : ∀ component ∈ node.components, ∀ part, Term.Part part component → ¬ reducer.isRedex part)
    (fired : reducer.fire node = .ok (some (.template template bindings))) :
    reducer.Skippable bindings := by
  obtain ⟨operator, patterns, matched⟩ := find_of_fire_template fired
  refine ⟨fun name value bound => (Matching.find_values matched bound).1,
    fun name value bound part inside => ?_⟩
  obtain ⟨-, component, member, deeper⟩ := Matching.find_values matched bound
  exact calm component member part (inside.trans deeper)

/-! ## The statement -/

/-- **Instantiating agrees with normalizing the instance.**  The programs over a counter have the results of
normalization.  Where values without redexes are bound to variables, instantiating a template and normalizing
its instance give the same term or the same error and spend the same number of steps, if the latter does not
come to a rule that goes round in circles at a part of a value.  And these are the bindings of every template
rule that fires at a node whose components have no redexes. -/
theorem instantiation_agrees (reducer : Reducer) (remaining : Nat) :
    (∀ bindings template spent,
      ((Counting.instantiateBelow (Counting.settle reducer remaining) bindings template).outcome spent =
          instantiateBelow (reducer.settle remaining) bindings template spent) ∧
        (Counting.normalizeBelow (Counting.settle reducer remaining) template).outcome spent =
          normalizeBelow (reducer.settle remaining) template spent) ∧
    (∀ bindings, reducer.Skippable bindings → ∀ template spent,
      (∀ problem, reducer.Circles bindings problem →
        ((Counting.normalizeBelow (Counting.settle reducer remaining)
          (template.substitute bindings)).on spent).1 ≠ .error problem) →
      (Counting.instantiateBelow (Counting.settle reducer remaining) bindings template).on spent =
        (Counting.normalizeBelow (Counting.settle reducer remaining)
          (template.substitute bindings)).on spent) ∧
    ∀ node template bindings,
      (∀ component ∈ node.components, ∀ part, Term.Part part component → ¬ reducer.isRedex part) →
      reducer.fire node = .ok (some (.template template bindings)) →
      reducer.Skippable bindings := by
  have same := Counting.outcome_settle reducer remaining
  refine ⟨fun bindings template spent => ⟨?_, ?_⟩,
    fun bindings skippable template spent returns => ?_,
    fun node template bindings calm fired => skippable_of_fire calm fired⟩
  · exact Counting.outcome_instantiateBelow same bindings template spent
  · exact Counting.outcome_normalizeBelow same template spent
  · rcases Counting.follows_instantiateBelow (skippable.valuesSkipped remaining) template spent with
      agrees | ⟨problem, left, circles, fails⟩
    · exact agrees
    · exact absurd (congrArg Prod.fst fails) (returns problem circles)

/-- With two steps allowed, of which one is spent by firing at `(f (d a))`, both ways of normalizing
`(g $x (f (c)))` fail at `(f a)` with both steps spent. -/
theorem instantiation_agrees_copying :
    (copying 2).fire (.compound "f" [.compound "d" [.atom "a"]]) =
        .ok (some (.template (.compound "g" [.atom "$x", .atom "$x"])
          (Dict.insert ∅ "$x" (.compound "d" [.atom "a"])))) ∧
      (copying 2).Skippable (Dict.insert ∅ "$x" (.compound "d" [.atom "a"])) ∧
      (Counting.instantiateBelow (Counting.settle (copying 2) 2)
        (Dict.insert ∅ "$x" (.compound "d" [.atom "a"]))
        (.compound "g" [.atom "$x", .compound "f" [.compound "c" []]])).on 1 =
          (.error (.stepLimit (.compound "f" [.atom "a"]) 2), 2) := by
  have fired : (copying 2).fire (.compound "f" [.compound "d" [.atom "a"]]) =
      .ok (some (.template (.compound "g" [.atom "$x", .atom "$x"])
        (Dict.insert ∅ "$x" (.compound "d" [.atom "a"])))) := rfl
  have calm : ∀ component ∈ [Term.compound "d" [.atom "a"]], ∀ part, Term.Part part component →
      ¬ (copying 2).isRedex part := by
    rintro _ (_ | ⟨_, ⟨⟩⟩)
    exact firstRedex?_eq_none.1 rfl
  have skippable := (instantiation_agrees (copying 2) 2).2.2 (.compound "f" [.compound "d" [.atom "a"]])
    _ _ calm fired
  have plain : (Counting.normalizeBelow (Counting.settle (copying 2) 2)
      (.compound "g" [.compound "d" [.atom "a"], .compound "f" [.compound "c" []]])).on 1 =
        (.error (.stepLimit (.compound "f" [.atom "a"]) 2), 2) := rfl
  have returns : ∀ problem,
      (copying 2).Circles (Dict.insert ∅ "$x" (.compound "d" [.atom "a"])) problem →
      ((Counting.normalizeBelow (Counting.settle (copying 2) 2)
        (.compound "g" [.compound "d" [.atom "a"], .compound "f" [.compound "c" []]])).on 1).1 ≠
          .error problem := by
    rintro _ ⟨_⟩
    rw [plain]
    nofun
  exact ⟨fired, skippable, ((instantiation_agrees (copying 2) 2).2.1 _ skippable
    (.compound "g" [.atom "$x", .compound "f" [.compound "c" []]]) 1 returns).trans plain⟩

/-- The rule `(f $x $x) → same`, and no grounded function. -/
def repeated : Reducer where
  space := Space.empty.addRule ⟨.compound "f" [.atom "$x", .atom "$x"], .template (.atom "same")⟩
  registry := ∅
  maxSteps := 1

/-- **Where a rule goes round in circles at a value,** skipping the value and going through it differ.  The value
`(f $x a)` has no redexes, and the match of the rule against it has no outcome. -/
theorem instantiation_repeated :
    let value : Term := .compound "f" [.atom "$x", .atom "a"]
    let bindings : Bindings := Dict.insert ∅ "$z" value
    let template : Term := .compound "k" [.atom "$z"]
    repeated.Skippable bindings ∧
    instantiateBelow (repeated.settle 1) bindings template 0 = .ok (.compound "k" [value], 0) ∧
    normalizeBelow (repeated.settle 1) (template.substitute bindings) 0 =
      .error (.matching (.circular "$x")) := by
  intro value bindings template
  have sole : ∀ name bound, bindings.get? name = some bound → name = "$z" ∧ bound = value := by
    intro name bound found
    simpa [bindings, Dict.get?_insert, eq_comm] using found
  refine ⟨⟨fun name bound found => ?_, fun name bound found => ?_⟩, rfl, rfl⟩
  · rw [(sole name bound found).1]
    decide
  · rw [(sole name bound found).2]
    exact firstRedex?_eq_none.1 rfl

end TermSpace.Reducer
