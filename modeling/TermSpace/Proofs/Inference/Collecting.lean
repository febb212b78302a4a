import TermSpace.Proofs.Inference.Rules

/-!
# What collecting does

Going through a term only adds to what has been collected (`Collected.Grows`): the supply moves up, every
variable in scope keeps its type, and the constraints so far stay.  All types are drawn from the
supply and without quantifiers (`Collected.Tidy`), as long as declarations are generalized and
annotations are without quantifiers.  One lemma per form of term says which parts it goes through and
what it adds of its own.
-/

namespace TermSpace.Inference

set_option autoImplicit false

/-! ## Forms -/

section Forms

variable {declarations : Dict String Ty} {state after : Collected} {ty : Ty}

theorem collect_variable {name : String} (isVariable : Term.isVariableName name) :
    collect declarations state (.atom name) = .ok (state.variableTy name) := by
  rw [collect, if_pos isVariable]

theorem collect_name {name : String} (notVariable : ¬ Term.isVariableName name) :
    collect declarations state (.atom name) = .ok (state.literalTy declarations name) := by
  rw [collect, if_neg notVariable]

theorem collect_application {head arguments : Term} :
    collect declarations state (.compound Term.applyOperator [head, arguments]) = .ok (ty, after) ↔
      ∃ headTy middle argumentsTy last, collect declarations state head = .ok (headTy, middle) ∧
        collect declarations middle arguments = .ok (argumentsTy, last) ∧ ty = .var last.supply ∧
        after = { last with supply := last.supply + 1 }.require headTy (.arrow argumentsTy (.var last.supply))
          (.compound Term.applyOperator [head, arguments]) := by
  rw [collect, if_pos rfl, bind_eq_ok]
  constructor
  · rintro ⟨⟨headTy, middle⟩, atHead, rest⟩
    obtain ⟨⟨argumentsTy, last⟩, atArguments, same⟩ := bind_eq_ok.1 rest
    cases same
    exact ⟨headTy, middle, argumentsTy, last, atHead, atArguments, rfl, rfl⟩
  · rintro ⟨headTy, middle, argumentsTy, last, atHead, atArguments, rfl, rfl⟩
    exact ⟨_, atHead, bind_eq_ok.2 ⟨_, atArguments, rfl⟩⟩

/-- The components of a product are gone through one after the other, the first one for its type. -/
theorem collect_product_eq {first : Term} {rest : List Term} :
    collect declarations state (.compound Term.productOperator (first :: rest)) =
      collect declarations state first >>= fun result =>
        collectAll declarations result.2 rest >>= fun last => pure (result.1, last) := by
  conv_lhs => unfold collect
  rw [if_neg (by decide), if_pos rfl]

theorem collect_product {first : Term} {rest : List Term} :
    collect declarations state (.compound Term.productOperator (first :: rest)) = .ok (ty, after) ↔
      ∃ middle, collect declarations state first = .ok (ty, middle) ∧
        collectAll declarations middle rest = .ok after := by
  rw [collect_product_eq, bind_eq_ok]
  constructor
  · rintro ⟨⟨firstTy, middle⟩, atFirst, more⟩
    obtain ⟨last, atRest, same⟩ := bind_eq_ok.1 more
    cases same
    exact ⟨middle, atFirst, atRest⟩
  · rintro ⟨middle, atFirst, atRest⟩
    exact ⟨_, atFirst, bind_eq_ok.2 ⟨_, atRest, rfl⟩⟩

theorem collectAll_cons {component : Term} {rest : List Term} :
    collectAll declarations state (component :: rest) = .ok after ↔
      ∃ ty middle, collect declarations state component = .ok (ty, middle) ∧
        collectAll declarations middle rest = .ok after := by
  rw [collectAll, bind_eq_ok]
  constructor
  · rintro ⟨⟨ty, middle⟩, atComponent, atRest⟩
    exact ⟨ty, middle, atComponent, atRest⟩
  · rintro ⟨ty, middle, atComponent, atRest⟩
    exact ⟨(ty, middle), atComponent, atRest⟩

/-- An equation is no application and no product. -/
theorem ne_of_isEquation {operator : String} (isOperator : isEquation operator) :
    operator ≠ Term.applyOperator ∧ operator ≠ Term.productOperator := by
  constructor <;> rintro rfl <;> exact absurd isOperator (by decide)

theorem collect_equation {operator : String} (isOperator : isEquation operator) {left right : Term} :
    collect declarations state (.compound operator [left, right]) = .ok (ty, after) ↔
      ∃ leftTy middle rightTy last, collect declarations state left = .ok (leftTy, middle) ∧
        collect declarations middle right = .ok (rightTy, last) ∧ ty = .bool ∧
        after = last.require leftTy rightTy (.compound operator [left, right]) := by
  have apart := ne_of_isEquation isOperator
  rw [collect, if_neg apart.1, if_neg apart.2, if_pos isOperator, bind_eq_ok]
  constructor
  · rintro ⟨⟨leftTy, middle⟩, atLeft, rest⟩
    obtain ⟨⟨rightTy, last⟩, atRight, same⟩ := bind_eq_ok.1 rest
    cases same
    exact ⟨leftTy, middle, rightTy, last, atLeft, atRight, rfl, rfl⟩
  · rintro ⟨leftTy, middle, rightTy, last, atLeft, atRight, rfl, rfl⟩
    exact ⟨_, atLeft, bind_eq_ok.2 ⟨_, atRight, rfl⟩⟩

/-- An abstraction is no application, no product and no equation. -/
theorem ne_of_isAbstraction {operator : String} (isOperator : isAbstraction operator) :
    operator ≠ Term.applyOperator ∧ operator ≠ Term.productOperator ∧ ¬ isEquation operator := by
  refine ⟨?_, ?_, ?_⟩
  · rintro rfl
    exact absurd isOperator (by decide)
  · rintro rfl
    exact absurd isOperator (by decide)
  · intro isEquation
    simp only [isAbstraction, Inference.isEquation, Bool.or_eq_true, decide_eq_true_eq] at isOperator isEquation
    rcases isOperator with rfl | rfl <;> simp at isEquation

theorem collect_abstraction {operator : String} (isOperator : isAbstraction operator) {parameter : Term}
    (isVariable : parameter.isVariable) {body : Term} :
    collect declarations state (.compound operator [parameter, body]) = .ok (ty, after) ↔
      ∃ bodyTy inner,
        collect declarations
          ({ state with supply := state.supply + 1 }.enter parameter.name (.var state.supply)) body =
            .ok (bodyTy, inner) ∧
        ty = .arrow (.var state.supply) bodyTy ∧ after = inner.leave state.context parameter.name := by
  have apart := ne_of_isAbstraction isOperator
  rw [collect, if_neg apart.1, if_neg apart.2.1, if_neg apart.2.2, if_pos isOperator]
  simp only [if_pos isVariable]
  rw [bind_eq_ok]
  constructor
  · rintro ⟨⟨bodyTy, inner⟩, atBody, same⟩
    cases same
    exact ⟨bodyTy, inner, atBody, rfl, rfl⟩
  · rintro ⟨bodyTy, inner, atBody, rfl, rfl⟩
    exact ⟨_, atBody, rfl⟩

theorem collect_annotated {subject ascription : Term} :
    collect declarations state (.compound ":" [subject, ascription]) = .ok (ty, after) ↔
      ∃ supply subjectTy last, Ty.ofTerm ascription state.supply = .ok (ty, supply) ∧
        collect declarations { state with supply } subject = .ok (subjectTy, last) ∧
        after = last.require ty subjectTy (.compound ":" [subject, ascription]) := by
  rw [collect, if_neg (by decide), if_neg (by decide), if_neg (by decide), if_neg (by decide), if_pos rfl,
    bind_eq_ok]
  constructor
  · rintro ⟨⟨declared, supply⟩, reads, rest⟩
    obtain ⟨⟨subjectTy, last⟩, atSubject, same⟩ := bind_eq_ok.1 rest
    cases same
    exact ⟨supply, subjectTy, last, reads, atSubject, rfl⟩
  · rintro ⟨supply, subjectTy, last, reads, atSubject, rfl⟩
    exact ⟨_, reads, bind_eq_ok.2 ⟨_, atSubject, rfl⟩⟩

theorem collect_other {term : Term} (noForm : ¬ Form term) :
    collect declarations state term = .ok (.atom, state) := by
  cases term with
  | atom name => exact absurd (.name name) noForm
  | compound operator components =>
    unfold collect
    split
    · next same =>
      subst same
      split
      · exact absurd (.application _ _) noForm
      · rfl
    split
    · next same =>
      subst same
      split
      · exact absurd (.product _ _) noForm
      · rfl
    split
    · next isOperator =>
      split
      · exact absurd (.equation isOperator _ _) noForm
      · rfl
    split
    · next isOperator =>
      split
      · split
        · next isVariable => exact absurd (.abstraction isOperator isVariable _) noForm
        · rfl
      · rfl
    split
    · next same =>
      subst same
      split
      · exact absurd (.annotated _ _) noForm
      · rfl
    · rfl

end Forms

/-! ## Growth -/

/-- More has been collected: the supply has moved up, and nothing in scope has changed or got lost. -/
structure Collected.Grows (before after : Collected) : Prop where
  le_supply : before.supply ≤ after.supply
  keeps : ∀ name ty, before.context.get? name = some ty → after.context.get? name = some ty
  suffix : before.constraints <:+ after.constraints

/-- All types are drawn from the supply. -/
structure Collected.Tidy (state : Collected) : Prop where
  context : ∀ name ty, state.context.get? name = some ty → ty.Drawn state.supply
  constraints : ∀ wanted ∈ state.constraints,
    wanted.left.Drawn state.supply ∧ wanted.right.Drawn state.supply

namespace Collected

theorem Grows.refl (state : Collected) : state.Grows state :=
  ⟨Nat.le_refl _, fun _ _ found => found, List.suffix_refl _⟩

theorem Grows.trans {before middle after : Collected} (first : before.Grows middle)
    (second : middle.Grows after) : before.Grows after :=
  ⟨Nat.le_trans first.le_supply second.le_supply,
    fun name ty found => second.keeps name ty (first.keeps name ty found),
    first.suffix.trans second.suffix⟩

theorem get?_enter (state : Collected) (name other : String) (ty : Ty) :
    (state.enter name ty).context.get? other =
      if name = other then some ty else state.context.get? other :=
  Dict.get?_insert state.context name other ty

theorem get?_leave (state : Collected) (outer : Dict String Ty) (name other : String) :
    (state.leave outer name).context.get? other =
      if name = other then outer.get? name else state.context.get? other := by
  unfold leave
  split
  · next ty found => rw [Dict.get?_insert, found]
  · next missing => rw [Dict.get?_erase, missing]

@[simp] theorem constraints_leave (state : Collected) (outer : Dict String Ty) (name : String) :
    (state.leave outer name).constraints = state.constraints := by
  unfold leave
  split <;> rfl

@[simp] theorem supply_leave (state : Collected) (outer : Dict String Ty) (name : String) :
    (state.leave outer name).supply = state.supply := by
  unfold leave
  split <;> rfl

section Steps

variable {state : Collected}

theorem grows_draw {supply : Nat} (order : state.supply ≤ supply) : state.Grows { state with supply } :=
  ⟨order, fun _ _ found => found, List.suffix_refl _⟩

theorem Tidy.draw (tidy : state.Tidy) {supply : Nat} (order : state.supply ≤ supply) :
    Tidy { state with supply } :=
  ⟨fun name ty found => (tidy.context name ty found).mono order, fun wanted member =>
    ⟨(tidy.constraints wanted member).1.mono order, (tidy.constraints wanted member).2.mono order⟩⟩

theorem grows_require (state : Collected) (left right : Ty) (origin : Term) :
    state.Grows (state.require left right origin) :=
  ⟨Nat.le_refl _, fun _ _ found => found, List.suffix_cons _ _⟩

theorem Tidy.require (tidy : state.Tidy) {left right : Ty} (atLeft : left.Drawn state.supply)
    (atRight : right.Drawn state.supply) (origin : Term) : (state.require left right origin).Tidy := by
  refine ⟨tidy.context, fun wanted member => ?_⟩
  rcases List.mem_cons.1 member with rfl | earlier
  · exact ⟨atLeft, atRight⟩
  · exact tidy.constraints wanted earlier

theorem Tidy.enter (tidy : state.Tidy) {ty : Ty} (drawn : ty.Drawn state.supply) (name : String) :
    (state.enter name ty).Tidy := by
  refine ⟨fun other bound found => ?_, tidy.constraints⟩
  rw [get?_enter] at found
  split at found
  · exact Option.some.inj found ▸ drawn
  · exact tidy.context other bound found

/-- A name enters its scope with a fresh variable for its type. -/
theorem Tidy.enter_fresh (tidy : state.Tidy) (name : String) :
    Tidy ({ state with supply := state.supply + 1 }.enter name (.var state.supply)) :=
  (tidy.draw (Nat.le_succ _)).enter (.var (Nat.lt_succ_self _)) name

theorem Tidy.leave (tidy : state.Tidy) {outer : Dict String Ty}
    (drawn : ∀ name ty, outer.get? name = some ty → ty.Drawn state.supply) (name : String) :
    (state.leave outer name).Tidy := by
  constructor
  · intro other bound found
    rw [get?_leave] at found
    rw [supply_leave]
    split at found
    · exact drawn name bound found
    · exact tidy.context other bound found
  · intro wanted member
    rw [constraints_leave] at member
    rw [supply_leave]
    exact tidy.constraints wanted member

end Steps

/-- From one state a type and another state have been collected. -/
structure To (before : Collected) (ty : Ty) (after : Collected) : Prop where
  grows : before.Grows after
  tidy : after.Tidy
  drawn : ty.Drawn after.supply

theorem Tidy.to_variableTy {state : Collected} (tidy : state.Tidy) (name : String) :
    state.To (state.variableTy name).1 (state.variableTy name).2 := by
  unfold variableTy
  cases found : state.context.get? name with
  | some ty => exact ⟨.refl state, tidy, tidy.context name ty found⟩
  | none =>
    refine ⟨⟨Nat.le_succ _, ?_, List.suffix_refl _⟩, tidy.enter_fresh name, .var (Nat.lt_succ_self _)⟩
    intro other ty bound
    have apart : name ≠ other := by
      rintro rfl
      simp [found] at bound
    exact (get?_enter _ name other _).trans ((if_neg apart).trans bound)

/-- The type of a name that is no variable draws on the supply at most. -/
theorem literalTy_snd {declarations : Dict String Ty} {name : String}
    (general : ∀ scheme, declarations.get? name = some scheme → scheme.IsGeneral) (state : Collected) :
    ∃ supply, state.supply ≤ supply ∧
      (state.literalTy declarations name).2 = { state with supply } ∧
      (state.literalTy declarations name).1.Drawn supply := by
  unfold literalTy
  split
  · exact ⟨_, Nat.le_refl _, rfl, .base _ _⟩
  split
  · exact ⟨_, Nat.le_refl _, rfl, .base _ _⟩
  split
  · exact ⟨_, Nat.le_refl _, rfl, .base _ _⟩
  split
  · next scheme found =>
    have isGeneral := general scheme found
    exact ⟨_, Ty.le_instantiate scheme state.supply, rfl, isGeneral.drawn state.supply⟩
  · exact ⟨_, Nat.le_refl _, rfl, .base _ _⟩

theorem Tidy.to_literalTy {declarations : Dict String Ty} {name : String}
    (general : ∀ scheme, declarations.get? name = some scheme → scheme.IsGeneral) {state : Collected}
    (tidy : state.Tidy) :
    state.To (state.literalTy declarations name).1 (state.literalTy declarations name).2 := by
  obtain ⟨supply, order, same, drawn⟩ := literalTy_snd general state
  rw [same]
  exact ⟨grows_draw order, tidy.draw order, drawn⟩

end Collected

/-! ## Collecting is growth -/

/-- The annotations that have a say in the type of a term are without quantifiers. -/
def Plain (term : Term) : Prop :=
  ∀ ascription, Visits term ascription → ∀ declared : Ty, declared.WrittenBy ascription →
    declared.quantifierFree

theorem Plain.part {term part : Term} (plain : Plain term) (looks : LooksAt term part) : Plain part :=
  fun ascription visits => plain ascription (.inside looks visits)

/-- All declarations are generalizations of types without quantifiers. -/
def General (declarations : Dict String Ty) : Prop :=
  ∀ name scheme, declarations.get? name = some scheme → scheme.IsGeneral

/-- All variables that declared types quantify over were drawn before a supply. -/
def DeclaredBefore (declarations : Dict String Ty) (supply : Nat) : Prop :=
  ∀ name scheme, declarations.get? name = some scheme → ∀ id ∈ scheme.binders, id < supply

theorem DeclaredBefore.mono {declarations : Dict String Ty} {earlier later : Nat}
    (declared : DeclaredBefore declarations earlier) (order : earlier ≤ later) :
    DeclaredBefore declarations later :=
  fun name scheme found id member => Nat.lt_of_lt_of_le (declared name scheme found id member) order

section Growth

variable {declarations : Dict String Ty}

/-- An annotation draws a copy of a type without quantifiers. -/
theorem drawn_of_ofTerm {ascription : Term}
    (plain : ∀ declared : Ty, declared.WrittenBy ascription → declared.quantifierFree) {ty : Ty}
    {before after : Nat} (reads : Ty.ofTerm ascription before = .ok (ty, after)) :
    before ≤ after ∧ ty.Drawn after := by
  obtain ⟨declared, size, writes, rfl, rfl⟩ := Ty.ofTerm_eq_ok_iff.1 reads
  have free := plain declared ⟨size, writes⟩
  rw [Ty.shift_eq_under free]
  exact ⟨Nat.le_add_right _ _, Ty.drawn_copy free (Ty.lt_of_ofTerm writes)⟩

/-- Going through a term takes all types from the supply, and only adds to what has been collected. -/
def Draws (declarations : Dict String Ty) (term : Term) : Prop :=
  ∀ ⦃state : Collected⦄ ⦃ty : Ty⦄ ⦃after : Collected⦄, state.Tidy →
    collect declarations state term = .ok (ty, after) → state.To ty after

theorem grows_collectAll {terms : List Term} (draws : ∀ term ∈ terms, Draws declarations term)
    {state after : Collected} (tidy : state.Tidy)
    (collects : collectAll declarations state terms = .ok after) : state.Grows after ∧ after.Tidy := by
  induction terms generalizing state with
  | nil =>
    cases collects
    exact ⟨.refl _, tidy⟩
  | cons term rest ih =>
    rw [List.forall_mem_cons] at draws
    obtain ⟨ty, middle, atTerm, atRest⟩ := collectAll_cons.1 collects
    have toTerm := draws.1 tidy atTerm
    obtain ⟨grows, tidyAfter⟩ := ih draws.2 toTerm.tidy atRest
    exact ⟨toTerm.grows.trans grows, tidyAfter⟩

namespace Draws

theorem name (general : General declarations) (name : String) : Draws declarations (.atom name) := by
  intro state ty after tidy collects
  by_cases isVariable : Term.isVariableName name
  · rw [collect_variable isVariable] at collects
    have toVariable := tidy.to_variableTy name
    rwa [Except.ok.inj collects] at toVariable
  · rw [collect_name isVariable] at collects
    have toLiteral := tidy.to_literalTy (general name)
    rwa [Except.ok.inj collects] at toLiteral

theorem application {head arguments : Term} (ofHead : Draws declarations head)
    (ofArguments : Draws declarations arguments) :
    Draws declarations (.compound Term.applyOperator [head, arguments]) := by
  intro state ty after tidy collects
  obtain ⟨headTy, middle, argumentsTy, last, atHead, atArguments, rfl, rfl⟩ :=
    collect_application.1 collects
  have toHead := ofHead tidy atHead
  have toArguments := ofArguments toHead.tidy atArguments
  have order : last.supply ≤ last.supply + 1 := Nat.le_succ _
  have fresh : (Ty.var last.supply).Drawn (last.supply + 1) := .var (Nat.lt_succ_self _)
  have drawnHead := (toHead.drawn.mono toArguments.grows.le_supply).mono order
  have drawnArrow := (toArguments.drawn.mono order).arrow fresh
  exact ⟨((toHead.grows.trans toArguments.grows).trans (Collected.grows_draw order)).trans
      (Collected.grows_require _ _ _ _),
    (toArguments.tidy.draw order).require drawnHead drawnArrow _, fresh⟩

theorem product {first : Term} {rest : List Term} (ofFirst : Draws declarations first)
    (ofRest : ∀ part ∈ rest, Draws declarations part) :
    Draws declarations (.compound Term.productOperator (first :: rest)) := by
  intro state ty after tidy collects
  obtain ⟨middle, atFirst, atRest⟩ := collect_product.1 collects
  have toFirst := ofFirst tidy atFirst
  obtain ⟨grows, tidyAfter⟩ := grows_collectAll ofRest toFirst.tidy atRest
  exact ⟨toFirst.grows.trans grows, tidyAfter, toFirst.drawn.mono grows.le_supply⟩

theorem equation {operator : String} (isOperator : isEquation operator) {left right : Term}
    (ofLeft : Draws declarations left) (ofRight : Draws declarations right) :
    Draws declarations (.compound operator [left, right]) := by
  intro state ty after tidy collects
  obtain ⟨leftTy, middle, rightTy, last, atLeft, atRight, rfl, rfl⟩ :=
    (collect_equation isOperator).1 collects
  have toLeft := ofLeft tidy atLeft
  have toRight := ofRight toLeft.tidy atRight
  exact ⟨(toLeft.grows.trans toRight.grows).trans (Collected.grows_require _ _ _ _),
    toRight.tidy.require (toLeft.drawn.mono toRight.grows.le_supply) toRight.drawn _, .base _ _⟩

theorem abstraction {operator : String} (isOperator : isAbstraction operator) {parameter body : Term}
    (isVariable : parameter.isVariable) (ofBody : Draws declarations body) :
    Draws declarations (.compound operator [parameter, body]) := by
  intro state ty after tidy collects
  obtain ⟨bodyTy, inner, atBody, rfl, rfl⟩ := (collect_abstraction isOperator isVariable).1 collects
  have toBody := ofBody (tidy.enter_fresh parameter.name) atBody
  have orderBody : state.supply + 1 ≤ inner.supply := toBody.grows.le_supply
  have order : state.supply ≤ inner.supply := Nat.le_of_succ_le orderBody
  refine ⟨⟨?_, ?_, ?_⟩, ?_, ?_⟩
  · rw [Collected.supply_leave]
    exact order
  · intro name ty found
    rw [Collected.get?_leave]
    split
    · next same => exact same ▸ found
    · next apart =>
      refine toBody.grows.keeps name ty ?_
      rw [Collected.get?_enter, if_neg apart]
      exact found
  · rw [Collected.constraints_leave]
    exact toBody.grows.suffix
  · apply toBody.tidy.leave
    intro name ty found
    exact (tidy.context name ty found).mono order
  · rw [Collected.supply_leave]
    exact (Ty.Drawn.var orderBody).arrow toBody.drawn

theorem annotated {subject ascription : Term}
    (plain : ∀ declared : Ty, declared.WrittenBy ascription → declared.quantifierFree)
    (ofSubject : Draws declarations subject) :
    Draws declarations (.compound ":" [subject, ascription]) := by
  intro state ty after tidy collects
  obtain ⟨supply, subjectTy, last, reads, atSubject, rfl⟩ := collect_annotated.1 collects
  obtain ⟨order, drawn⟩ := drawn_of_ofTerm plain reads
  have toSubject := ofSubject (tidy.draw order) atSubject
  have drawnLast := drawn.mono toSubject.grows.le_supply
  exact ⟨((Collected.grows_draw order).trans toSubject.grows).trans (Collected.grows_require _ _ _ _),
    toSubject.tidy.require drawnLast toSubject.drawn _, drawnLast⟩

theorem other {term : Term} (noForm : ¬ Form term) : Draws declarations term := by
  intro state ty after tidy collects
  rw [collect_other noForm] at collects
  cases collects
  exact ⟨.refl _, tidy, .base _ _⟩

end Draws

/-- **Going through any term only adds to what has been collected.** -/
theorem Plain.draws (general : General declarations) {term : Term} (plain : Plain term) :
    Draws declarations term := by
  induction term using LooksAt.induction with
  | step term ih =>
    have ofPart : ∀ part, LooksAt term part → Draws declarations part := fun part looks =>
      ih part looks (plain.part looks)
    by_cases form : Form term
    · cases form with
      | name name => exact .name general name
      | application head arguments =>
        exact .application (ofPart _ (.head head arguments)) (ofPart _ (.arguments head arguments))
      | product first rest =>
        refine .product (ofPart _ (.component List.mem_cons_self)) ?_
        intro part member
        exact ofPart part (.component (List.mem_cons_of_mem _ member))
      | equation isOperator left right =>
        exact .equation isOperator (ofPart _ (.left isOperator left right))
          (ofPart _ (.right isOperator left right))
      | abstraction isOperator isVariable body =>
        exact .abstraction isOperator isVariable (ofPart _ (.body isOperator isVariable body))
      | annotated subject ascription =>
        exact .annotated (plain ascription (.here subject ascription))
          (ofPart _ (.subject subject ascription))
    · exact .other form

end Growth

end TermSpace.Inference
