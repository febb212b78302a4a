import TermSpace.Proofs.Grounded.Closed
import TermSpace.Proofs.Matching.Instances
import TermSpace.Proofs.Reduction.Innermost

/-!
# The order of the rules

The rules are tried in their order, and the first one that matches is applied.  A rule whose pattern is an
instance of an earlier one is never applied to a closed term: what it matches, the earlier rule matches too.  So
the space may do without it (`step_addRule_instance`), whatever rules come after it.

What a step does besides is to call a grounded function, which is shown the space as a whole.  The functions that
are always there ignore the rules of the space.  A function of a host program need not, and if a rule more or
less changes what a step does, then by the answer of such a function to a call that no rule matches.
-/

namespace TermSpace

set_option autoImplicit false

/-! ## Functions that ignore the rules -/

/-- The function does not look at the rules of the space that it is called in. -/
def GroundedFunction.IgnoresRules (function : GroundedFunction) : Prop :=
  ∀ (space : Space) (rules : List Rule) (arguments : List Term),
    function { space with rules } arguments = function space arguments

/-- No function of the registry looks at the rules. -/
def Registry.IgnoresRules (registry : Registry) : Prop := registry.All GroundedFunction.IgnoresRules

/-- A call by name ignores the rules as well, also if there is no function of the name. -/
theorem Registry.IgnoresRules.execute {registry : Registry} (ignores : registry.IgnoresRules) (space : Space)
    (rules : List Rule) (name : String) (arguments : List Term) :
    registry.execute { space with rules } name arguments = registry.execute space name arguments := by
  rw [Registry.execute, Registry.execute]
  cases found : registry.functions.get? (groundedName name) with
  | none => rfl
  | some function => exact ignores _ function found space rules arguments

/-- The functions that are always there look at the arguments, or at the atoms of the space. -/
theorem Builtins.ignoresRules : registry.IgnoresRules := by
  refine .registerAll ?_ (Registry.all_empty _)
  simp only [List.forall_mem_cons, List.not_mem_nil, IsEmpty.forall_iff, implies_true, and_true]
  and_intros
  all_goals exact fun _ _ _ => rfl

/-! ## Rules that are passed over -/

/-- **A rule whose pattern is an instance of an earlier one** does not come to be the first that matches a
closed term. -/
theorem Rule.first?_instance {earlier later : List Rule} {general specific : Rule} {term : Term}
    (known : general ∈ earlier) (special : specific.pattern.InstanceOf general.pattern) (closed : term.Closed) :
    first? term (earlier ++ specific :: later) = first? term (earlier ++ later) := by
  rw [first?_append, first?_append]
  cases found : first? term earlier with
  | error problem => rfl
  | ok answer =>
    cases answer with
    | some pair => rfl
    | none =>
      -- the general rule was tried and did not match, and the special one matches no more than that
      have notGeneral : ¬ term.InstanceOf general.pattern :=
        (Matching.find_eq_none_iff _ closed).1 (first?_eq_none.1 found general known)
      have unmatched : Matching.find specific.pattern term = .ok none :=
        (Matching.find_eq_none_iff _ closed).2 fun inside => notGeneral (inside.trans special)
      show first? term (specific :: later) = first? term later
      rw [first?, unmatched]

/-- Rules that are added one after the other come after those that are there. -/
theorem Space.foldl_addRule (space : Space) : ∀ rules : List Rule,
    rules.foldl addRule space = { space with rules := space.rules ++ rules }
  | [] => by simp
  | rule :: rest => by
    rw [List.foldl_cons, foldl_addRule]
    simp [addRule]

namespace Reducer

/-- No rule matches the term, and the function that it calls tells another space from that of the reducer. -/
def CallTells (reducer : Reducer) (other : Space) (term : Term) : Prop :=
  (∀ rule ∈ reducer.space.rules, ¬ rule.matches term) ∧
    ∃ name arguments, term.groundedCall? = some (name, arguments) ∧
      reducer.registry.execute other name arguments ≠ reducer.registry.execute reducer.space name arguments

/-- Where the first rule that matches is the same, so is the step, unless a call tells the spaces apart. -/
theorem step_eq_or_callTells {reducer : Reducer} {other : Space} {term : Term}
    (same : Rule.first? term other.rules = Rule.first? term reducer.space.rules) :
    { reducer with space := other }.step term = reducer.step term ∨ reducer.CallTells other term := by
  rw [step, step, fire, fire, same]
  cases found : Rule.first? term reducer.space.rules with
  | error problem => exact .inl rfl
  | ok answer =>
    cases answer with
    | some pair => exact .inl rfl
    | none =>
      cases call : term.groundedCall? with
      | none => exact .inl rfl
      | some pair =>
        obtain ⟨name, arguments⟩ := pair
        by_cases agree : reducer.registry.execute other name arguments =
            reducer.registry.execute reducer.space name arguments
        · simp only [agree, true_or]
        · refine .inr ⟨fun rule member => ?_, name, arguments, call, agree⟩
          exact Rule.not_matches_of_find (Rule.first?_eq_none.1 found rule member)

/-- **A later rule that is more special is dead.** Let a rule be added whose pattern is an instance of the pattern
of a rule that is there, and any other rules after it.  With a registry that ignores the rules, such as that of
the functions that are always there, a step does the same to a closed term as if it had not been added, with the
same result or the same error.  With any other registry it does so too, unless no rule matches the term and the
function that it calls tells the two spaces apart by itself. -/
theorem step_addRule_instance :
    Builtins.registry.IgnoresRules ∧
    ∀ (reducer : Reducer) (general specific : Rule) (bindings : Bindings) (later : List Rule) (term : Term),
      general ∈ reducer.space.rules → specific.pattern = general.pattern.substitute bindings →
      term.Closed →
      let without := { reducer with space := later.foldl Space.addRule reducer.space }
      let extended := { reducer with space := later.foldl Space.addRule (reducer.space.addRule specific) }
      (reducer.registry.IgnoresRules → extended.step term = without.step term) ∧
        (extended.step term = without.step term ∨ without.CallTells extended.space term) := by
  refine ⟨Builtins.ignoresRules, fun reducer general specific bindings later term known special closed => ?_⟩
  intro without extended
  have rulesWithout : without.space = { reducer.space with rules := reducer.space.rules ++ later } :=
    Space.foldl_addRule reducer.space later
  have rulesExtended : extended.space =
      { reducer.space with rules := reducer.space.rules ++ specific :: later } := by
    simp [extended, Space.foldl_addRule, Space.addRule]
  have same : Rule.first? term extended.space.rules = Rule.first? term without.space.rules := by
    rw [rulesWithout, rulesExtended]
    exact Rule.first?_instance known ⟨bindings, special.symm⟩ closed
  have either : extended.step term = without.step term ∨ without.CallTells extended.space term :=
    step_eq_or_callTells same
  refine ⟨fun ignores => either.resolve_right ?_, either⟩
  rintro ⟨-, name, arguments, -, tells⟩
  refine tells ?_
  rw [rulesWithout, rulesExtended]
  exact (ignores.execute _ _ name arguments).trans (ignores.execute _ _ name arguments).symm

/-- The rule `(pair $x $y) → apart`, and the functions that are always there. -/
def pairs : Reducer where
  space := Space.empty.addRule ⟨.compound "pair" [.atom "$x", .atom "$y"], .template (.atom "apart")⟩
  registry := Builtins.registry
  maxSteps := 1

/-- The rule `(pair $z $z) → alike` is dead where it comes second, and one for other terms comes third. -/
theorem step_addRule_instance_pairs :
    let general : Term := .compound "pair" [.atom "$x", .atom "$y"]
    let merging : Bindings := (Dict.insert ∅ "$x" (.atom "$z")).insert "$y" (.atom "$z")
    let alike : Rule := ⟨.compound "pair" [.atom "$z", .atom "$z"], .template (.atom "alike")⟩
    let other : Rule := ⟨.compound "size" [.atom "$x"], .template (.atom "$x")⟩
    let term : Term := .compound "pair" [.atom "a", .atom "a"]
    alike.pattern = general.substitute merging ∧
    { pairs with space := (pairs.space.addRule alike).addRule other }.step term =
      { pairs with space := pairs.space.addRule other }.step term := by
  intro general merging alike other term
  have special : alike.pattern = general.substitute merging := by decide
  refine ⟨special, ?_⟩
  exact (step_addRule_instance.2 pairs _ alike merging [other] term List.mem_cons_self special
    (by decide)).1 step_addRule_instance.1

/-- A function that answers how many rules there are. -/
def countRules : GroundedFunction := fun space _ => .ok (.atom (toString space.rules.length))

/-- The rule `(pair $x $y) → apart`, and the function `&rules` that counts the rules. -/
def census : Reducer := { pairs with registry := Registry.empty.register "rules" countRules }

/-- **A function that looks at the rules tells of a rule that is dead.** The rule `(pair $z $z) → alike` is never
applied, and a call of the function answers two instead of one. -/
theorem step_addRule_census :
    let general : Rule := ⟨.compound "pair" [.atom "$x", .atom "$y"], .template (.atom "apart")⟩
    let merging : Bindings := (Dict.insert ∅ "$x" (.atom "$z")).insert "$y" (.atom "$z")
    let alike : Rule := ⟨.compound "pair" [.atom "$z", .atom "$z"], .template (.atom "alike")⟩
    let call : Term := .apply (.atom "&rules") []
    general ∈ census.space.rules ∧ alike.pattern = general.pattern.substitute merging ∧ call.Closed ∧
    census.step call = .ok ⟨.atom "1", true⟩ ∧
    { census with space := census.space.addRule alike }.step call = .ok ⟨.atom "2", true⟩ :=
  ⟨List.mem_cons_self, by decide, by decide, rfl, rfl⟩

end Reducer

end TermSpace
