import TermSpace.Proofs.Matching.Success

/-!
# The values that matching binds

Matching keeps the bindings that it starts from.  What it adds are variables bound to parts of the term, and a
pattern that is a compound binds them to parts of the components (`extend_adds_parts`).  This also holds where a
variable occurs again, and its value comes back in as the pattern.
-/

namespace TermSpace.Matching

set_option autoImplicit false

/-- Following bindings from a variable ends at a variable if it ends at a name. -/
theorem variable_of_follow {bindings : Bindings} {start free : String} :
    ∀ {steps : Nat} {name : String}, Term.isVariableName name = true →
      follow bindings start steps name = .ok (.unbound free) → Term.isVariableName free = true
  | steps, name, kind, ends => by
    rw [follow.eq_def] at ends
    dsimp only at ends
    split at ends
    · cases ends
      exact kind
    · cases ends
    · split at ends
      · next other =>
        cases steps with
        | zero => cases ends
        | succ steps => exact variable_of_follow other ends
      · cases ends

/-- A pattern stands for no name but variables. -/
theorem variable_of_expose {bindings : Bindings} {pattern : Term} {free : String}
    (exposed : expose bindings pattern = .ok (.unbound free)) : Term.isVariableName free = true := by
  cases pattern with
  | compound operator patterns => cases exposed
  | atom name =>
    rw [expose] at exposed
    split at exposed
    · next kind => exact variable_of_follow kind exposed
    · cases exposed

mutual

/-- A value is bound from the start, or is a part of the term and bound to a variable. -/
theorem extend_values : ∀ {term pattern : Term} {bindings result : Bindings},
    extend pattern term bindings = .ok (some result) → ∀ {name : String} {value : Term},
      result.get? name = some value →
        bindings.get? name = some value ∨ (Term.isVariableName name = true ∧ value.Part term)
  | .atom other, pattern, bindings, result, outcome, name, value, bound => by
    rw [extend] at outcome
    split at outcome
    · cases outcome
    · next free exposed =>
      cases outcome
      rw [Dict.get?_insert] at bound
      split at bound
      · next same =>
        cases bound
        exact .inr ⟨same ▸ variable_of_expose exposed, .whole _⟩
      · exact .inl bound
    · split at outcome
      · cases outcome
        exact .inl bound
      · cases outcome
    · cases outcome
  | .compound operator components, pattern, bindings, result, outcome, name, value, bound => by
    rw [extend] at outcome
    split at outcome
    · cases outcome
    · next free exposed =>
      cases outcome
      rw [Dict.get?_insert] at bound
      split at bound
      · next same =>
        cases bound
        exact .inr ⟨same ▸ variable_of_expose exposed, .whole _⟩
      · exact .inl bound
    · cases outcome
    · split at outcome
      · rcases extendAll_values outcome bound with earlier | ⟨kind, component, member, deeper⟩
        · exact .inl earlier
        · exact .inr ⟨kind, .inside member deeper⟩
      · cases outcome

/-- A value is bound from the start, or is a part of one of the components and bound to a variable. -/
theorem extendAll_values : ∀ {components patterns : List Term} {bindings result : Bindings},
    extendAll patterns components bindings = .ok (some result) → ∀ {name : String} {value : Term},
      result.get? name = some value →
        bindings.get? name = some value ∨
          (Term.isVariableName name = true ∧ ∃ component ∈ components, value.Part component)
  | [], patterns, bindings, result, outcome, name, value, bound => by
    rw [extendAll] at outcome
    · cases outcome
      exact .inl bound
    · simp
  | component :: components, [], bindings, result, outcome, name, value, bound => by
    rw [extendAll] at outcome
    · cases outcome
      exact .inl bound
    · simp
  | component :: components, pattern :: patterns, bindings, result, outcome, name, value, bound => by
    rw [extendAll] at outcome
    split at outcome
    · next middle first =>
      rcases extendAll_values outcome bound with earlier | ⟨kind, later, member, deeper⟩
      · rcases extend_values first earlier with start | ⟨kind, here⟩
        · exact .inl start
        · exact .inr ⟨kind, component, List.mem_cons_self, here⟩
      · exact .inr ⟨kind, later, List.mem_cons_of_mem _ member, deeper⟩
    · cases outcome
    · cases outcome

end

/-- A compound pattern binds variables to parts of the components. -/
theorem extend_compound_values {operator : String} {patterns : List Term} {term : Term}
    {bindings result : Bindings}
    (outcome : extend (.compound operator patterns) term bindings = .ok (some result)) {name : String}
    {value : Term} (bound : result.get? name = some value) :
    bindings.get? name = some value ∨
      (Term.isVariableName name = true ∧ ∃ component ∈ term.components, value.Part component) := by
  obtain ⟨components, rfl, -, below⟩ := extend_eq_some outcome
  exact extendAll_values below bound

/-- What a compound pattern binds where nothing is bound at first. -/
theorem find_values {operator : String} {patterns : List Term} {term : Term} {bindings : Bindings}
    (outcome : find (.compound operator patterns) term = .ok (some bindings)) {name : String}
    {value : Term} (bound : bindings.get? name = some value) :
    Term.isVariableName name = true ∧ ∃ component ∈ term.components, value.Part component :=
  (extend_compound_values outcome bound).resolve_left (by simp)

/-- **Matching keeps all bindings, and adds variables with parts of the term.** Whatever is bound at first, to
terms with variables or without, every entry stays.  Every new name is a variable, and its value is a part of
the term, inside of one of the components if the pattern is a compound. -/
theorem extend_adds_parts {pattern term : Term} {bindings result : Bindings}
    (outcome : extend pattern term bindings = .ok (some result)) :
    (∀ name value, bindings.get? name = some value → result.get? name = some value) ∧
    ∀ name value, bindings.get? name = none → result.get? name = some value →
      Term.isVariableName name = true ∧ value.Part term ∧
        (pattern.isAtomic = false → ∃ component ∈ term.components, value.Part component) := by
  refine ⟨extend_keeps outcome, fun name value new bound => ?_⟩
  have notEarlier : bindings.get? name ≠ some value := by simp [new]
  obtain ⟨kind, inside⟩ := (extend_values outcome bound).resolve_left notEarlier
  refine ⟨kind, inside, fun compound => ?_⟩
  cases pattern with
  | atom other => cases compound
  | compound operator patterns =>
    exact ((extend_compound_values outcome bound).resolve_left notEarlier).2

/-- **A value is the pattern of the second occurrence.** The variable is bound to `(g, $y)`, which is then
matched against `(g, a)` and binds a variable of the term, to a part of a component all the same. -/
theorem extend_adds_parts_again :
    let pattern : Term := .compound "f" [.atom "$x", .atom "$x"]
    let term : Term := .compound "f" [.compound "g" [.atom "$y"], .compound "g" [.atom "a"]]
    let bindings : Bindings := Dict.insert ∅ "$z" (.atom "$x")
    let result := (bindings.insert "$x" (.compound "g" [.atom "$y"])).insert "$y" (.atom "a")
    extend pattern term bindings = .ok (some result) ∧ result.get? "$z" = some (.atom "$x") ∧
    ∃ component ∈ term.components, (Term.atom "a").Part component := by
  intro pattern term bindings result
  have outcome : extend pattern term bindings = .ok (some result) := rfl
  obtain ⟨keeps, adds⟩ := extend_adds_parts outcome
  exact ⟨outcome, keeps "$z" _ rfl, (adds "$y" (.atom "a") rfl rfl).2.2 rfl⟩

end TermSpace.Matching
