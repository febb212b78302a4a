import TermSpace.Matching
import TermSpace.Proofs.Term.Substitution

/-!
# What a successful match has done

Matching looks at a pattern through what it stands for: a variable without a term, which takes the term, an
atom, which has to be the term, or a compound, whose parts are matched one after the other
(`extend_eq_some`).  It only adds bindings and never takes one back (`extend_keeps`).

Proofs about successful matches go along the pattern as it is written, where a bound variable is an atom
like any other (`extend_induction`).
-/

namespace TermSpace.Matching

set_option autoImplicit false

/-! ## What a pattern stands for -/

/-- Where following bindings ends at a name, the name has no term. -/
theorem follow_unbound {bindings : Bindings} {start free : String} :
    ∀ {steps : Nat} {name : String},
      follow bindings start steps name = .ok (.unbound free) → bindings.get? free = none
  | steps, name, ends => by
    rw [follow.eq_def] at ends
    dsimp only at ends
    split at ends
    · next unbound =>
      cases ends
      exact unbound
    · cases ends
    · split at ends
      · cases steps with
        | zero => cases ends
        | succ steps => exact follow_unbound ends
      · cases ends

/-- Where following bindings ends at an atom, the atom is no variable. -/
theorem follow_shape {bindings : Bindings} {start shown : String} :
    ∀ {steps : Nat} {name : String},
      follow bindings start steps name = .ok (.shape (.atom shown)) →
        Term.isVariableName shown = false
  | steps, name, ends => by
    rw [follow.eq_def] at ends
    dsimp only at ends
    split at ends
    · cases ends
    · cases ends
    · split at ends
      · cases steps with
        | zero => cases ends
        | succ steps => exact follow_shape ends
      · next constant =>
        cases ends
        simpa using constant

variable {bindings result : Bindings} {pattern term : Term}

/-- A pattern stands for no name that has a term. -/
theorem unbound_of_expose {free : String}
    (exposed : expose bindings pattern = .ok (.unbound free)) : bindings.get? free = none := by
  cases pattern with
  | compound operator patterns => cases exposed
  | atom name =>
    rw [expose] at exposed
    split at exposed
    · exact follow_unbound exposed
    · cases exposed

/-- A pattern stands for no variable that has a term. -/
theorem constant_of_expose {shown : String}
    (exposed : expose bindings pattern = .ok (.shape (.atom shown))) :
    Term.isVariableName shown = false := by
  cases pattern with
  | compound operator patterns => cases exposed
  | atom name =>
    rw [expose] at exposed
    split at exposed
    · exact follow_shape exposed
    · next constant =>
      cases exposed
      simpa using constant

/-! ## One match -/

/-- **What matching has done,** by what the pattern stood for. -/
theorem extend_eq_some (outcome : extend pattern term bindings = .ok (some result)) :
    match expose bindings pattern with
    | .ok (.unbound free) => result = bindings.insert free term
    | .ok (.shape (.atom name)) => term = .atom name ∧ result = bindings
    | .ok (.shape (.compound operator patterns)) =>
      ∃ components, term = .compound operator components ∧ patterns.length = components.length ∧
        extendAll patterns components bindings = .ok (some result)
    | .error _ => False := by
  cases exposed : expose bindings pattern with
  | error problem => cases term <;> simp [extend, exposed] at outcome
  | ok shown =>
    cases shown with
    | unbound free => cases term <;> simpa [extend, exposed, eq_comm] using outcome
    | shape shown =>
      cases shown with
      | atom name =>
        cases term with
        | atom other =>
          simp only [extend, exposed, Except.ok.injEq, Option.ite_none_right_eq_some,
            Option.some.injEq] at outcome
          exact ⟨by rw [outcome.1], outcome.2.symm⟩
        | compound operator components => simp [extend, exposed] at outcome
      | compound operator patterns =>
        cases term with
        | atom other => simp [extend, exposed] at outcome
        | compound other components =>
          simp only [extend, exposed] at outcome
          split at outcome
          · next fits => exact ⟨components, by rw [fits.1], fits.2, outcome⟩
          · cases outcome

/-- Components are matched one after the other. -/
theorem extendAll_cons_eq_some {component : Term} {patterns components : List Term} :
    extendAll (pattern :: patterns) (component :: components) bindings = .ok (some result) ↔
      ∃ middle, extend pattern component bindings = .ok (some middle) ∧
        extendAll patterns components middle = .ok (some result) := by
  rw [extendAll]
  cases first : extend pattern component bindings with
  | error problem => simp
  | ok answer => cases answer <;> simp

/-! ## Earlier bindings stay -/

mutual

/-- **Matching only adds bindings.** -/
theorem extend_keeps : ∀ {term pattern : Term} {bindings result : Bindings},
    extend pattern term bindings = .ok (some result) → result.Extends bindings
  | .atom name, pattern, bindings, result, outcome => by
    have done := extend_eq_some outcome
    split at done
    · next free exposed => exact done ▸ .insert _ (unbound_of_expose exposed)
    · exact done.2 ▸ .refl bindings
    · obtain ⟨_, impossible, _⟩ := done
      cases impossible
    · exact done.elim
  | .compound operator components, pattern, bindings, result, outcome => by
    have done := extend_eq_some outcome
    split at done
    · next free exposed => exact done ▸ .insert _ (unbound_of_expose exposed)
    · exact done.2 ▸ .refl bindings
    · obtain ⟨_, same, _, below⟩ := done
      cases same
      exact extendAll_keeps below
    · exact done.elim

theorem extendAll_keeps : ∀ {components patterns : List Term} {bindings result : Bindings},
    extendAll patterns components bindings = .ok (some result) → result.Extends bindings
  | [], patterns, bindings, result, outcome => by
    rw [extendAll] at outcome
    · cases outcome
      exact .refl bindings
    · simp
  | component :: components, [], bindings, result, outcome => by
    rw [extendAll] at outcome
    · cases outcome
      exact .refl bindings
    · simp
  | component :: components, pattern :: patterns, bindings, result, outcome => by
    obtain ⟨middle, first, rest⟩ := extendAll_cons_eq_some.1 outcome
    exact (extendAll_keeps rest).trans (extend_keeps first)

end

/-! ## Induction along the pattern -/

/-- **Induction on a successful match** along the pattern as it is written. -/
theorem extend_induction (One : Term → Term → Bindings → Bindings → Prop)
    (All : List Term → List Term → Bindings → Bindings → Prop)
    (atom : ∀ {name term bindings result},
      extend (.atom name) term bindings = .ok (some result) → One (.atom name) term bindings result)
    (compound : ∀ {operator patterns components bindings result},
      All patterns components bindings result →
        One (.compound operator patterns) (.compound operator components) bindings result)
    (nil : ∀ bindings, All [] [] bindings bindings)
    (cons : ∀ {pattern component patterns components bindings middle result},
      extend pattern component bindings = .ok (some middle) →
      extendAll patterns components middle = .ok (some result) →
      One pattern component bindings middle → All patterns components middle result →
        All (pattern :: patterns) (component :: components) bindings result)
    (outcome : extend pattern term bindings = .ok (some result)) :
    One pattern term bindings result := by
  induction pattern generalizing term bindings result with
  | atom name => exact atom outcome
  | compound operator patterns ih =>
    obtain ⟨components, rfl, lengths, below⟩ := extend_eq_some outcome
    refine compound ?_
    clear outcome
    induction patterns generalizing components bindings with
    | nil =>
      obtain rfl := List.eq_nil_of_length_eq_zero lengths.symm
      rw [extendAll] at below
      · cases below
        exact nil _
      · simp
    | cons pattern patterns ihAll =>
      cases components with
      | nil => simp at lengths
      | cons component components =>
        obtain ⟨middle, first, rest⟩ := extendAll_cons_eq_some.1 below
        refine cons first rest (ih pattern List.mem_cons_self first) ?_
        exact ihAll (fun later member => ih later (List.mem_cons_of_mem _ member)) components
          (by simpa using lengths) rest

end TermSpace.Matching
