import TermSpace.Proofs.Inference.Collecting
import TermSpace.Proofs.Ty.MostGeneral

/-!
# Soundness of inference

What has been collected is *real* under an assignment and in a context if all constraints hold and every
variable in scope has the type of the context (`Realizes`).  Where it is real, the collected type is a
type of the term by the rules (`Plain.derives`).

A scope that has been left again is the delicate point.  At the end of the body of an abstraction the
parameter still has its own type, so what is real after the abstraction is real there in a context
that is changed for the parameter (`Realizes.of_leave`).
-/

namespace TermSpace

set_option autoImplicit false

namespace Inference

/-! ## Realizing what has been collected -/

/-- All constraints hold, and the variables in scope have the types of a context. -/
structure Realizes (assignment : Nat → Ty) (context : String → Ty) (state : Collected) : Prop where
  solves : Solves assignment state.constraints
  agrees : ∀ name ty, state.context.get? name = some ty → context name = ty.under assignment

namespace Realizes

variable {assignment first : Nat → Ty} {context : String → Ty} {state after : Collected}

theorem start (assignment : Nat → Ty) (context : String → Ty) (supply : Nat) :
    Realizes assignment context (.start supply) :=
  ⟨fun wanted member => by simp [Collected.start] at member,
    fun name ty found => by simp [Collected.start] at found⟩

theorem earlier (realizes : Realizes assignment context after) (grows : state.Grows after) :
    Realizes assignment context state :=
  ⟨fun wanted member => realizes.solves wanted (grows.suffix.subset member),
    fun name ty found => realizes.agrees name ty (grows.keeps name ty found)⟩

/-- What the variables not drawn yet stand for does not matter. -/
theorem congr (realizes : Realizes first context state) (tidy : state.Tidy)
    (agree : ∀ id < state.supply, assignment id = first id) : Realizes assignment context state := by
  constructor
  · intro wanted member
    obtain ⟨drawnLeft, drawnRight⟩ := tidy.constraints wanted member
    have holds := realizes.solves wanted member
    unfold Constraint.Holds at holds ⊢
    rw [drawnLeft.under_eq agree, drawnRight.under_eq agree]
    exact holds
  · intro name ty found
    rw [(tidy.context name ty found).under_eq agree]
    exact realizes.agrees name ty found

theorem draw (realizes : Realizes assignment context state) (supply : Nat) :
    Realizes assignment context { state with supply } := ⟨realizes.solves, realizes.agrees⟩

theorem require (realizes : Realizes assignment context state) {left right : Ty}
    (same : left.under assignment = right.under assignment) (origin : Term) :
    Realizes assignment context (state.require left right origin) :=
  ⟨solves_cons.2 ⟨same, realizes.solves⟩, realizes.agrees⟩

theorem of_require {left right : Ty} {origin : Term}
    (realizes : Realizes assignment context (state.require left right origin)) :
    left.under assignment = right.under assignment ∧ Realizes assignment context state :=
  ⟨(solves_cons.1 realizes.solves).1, (solves_cons.1 realizes.solves).2, realizes.agrees⟩

theorem enter (realizes : Realizes assignment context state) (name : String) (ty : Ty) :
    Realizes assignment (Function.update context name (ty.under assignment)) (state.enter name ty) := by
  refine ⟨realizes.solves, fun other bound found => ?_⟩
  rw [Collected.get?_enter] at found
  split at found
  · next same =>
    subst same
    rw [Function.update_self, Option.some.inj found]
  · next apart =>
    rw [Function.update_of_ne (Ne.symm apart)]
    exact realizes.agrees other bound found

/-- A name enters its scope with a fresh variable that stands for a given type. -/
theorem enter_fresh (realizes : Realizes first context state) (tidy : state.Tidy) (name : String)
    (ty : Ty) :
    Realizes (Ty.splice state.supply first fun _ => ty) (Function.update context name ty)
      ({ state with supply := state.supply + 1 }.enter name (.var state.supply)) := by
  have agree := Ty.splice_agrees state.supply first fun _ => ty
  have entered := ((realizes.congr tidy agree).draw (state.supply + 1)).enter name (.var state.supply)
  rwa [Ty.under_var, Ty.splice_self] at entered

/-- Inside the scope of a name. -/
theorem of_leave {outer : Dict String Ty} {name : String} {ty : Ty}
    (realizes : Realizes assignment context (state.leave outer name))
    (bound : state.context.get? name = some ty) :
    Realizes assignment (Function.update context name (ty.under assignment)) state := by
  constructor
  · have solves := realizes.solves
    rwa [Collected.constraints_leave] at solves
  · intro other otherTy found
    by_cases same : name = other
    · subst same
      rw [bound] at found
      rw [Function.update_self, Option.some.inj found]
    · rw [Function.update_of_ne (Ne.symm same)]
      refine realizes.agrees other otherTy ?_
      rw [Collected.get?_leave, if_neg same]
      exact found

/-- Outside the scope of a name. -/
theorem leave {outer : Dict String Ty} {name : String} {ty : Ty}
    (realizes : Realizes assignment (Function.update context name ty) state)
    (agreesOutside : ∀ ty, outer.get? name = some ty → context name = ty.under assignment) :
    Realizes assignment context (state.leave outer name) := by
  constructor
  · rw [Collected.constraints_leave]
    exact realizes.solves
  · intro other otherTy found
    rw [Collected.get?_leave] at found
    split at found
    · next same =>
      subst same
      exact agreesOutside otherTy found
    · next apart =>
      have agrees := realizes.agrees other otherTy found
      rwa [Function.update_of_ne (Ne.symm apart)] at agrees

end Realizes

/-! ## Soundness -/

section Soundness

variable {declarations : Dict String Ty}

theorem get?_variableTy (state : Collected) (name : String) :
    (state.variableTy name).2.context.get? name = some (state.variableTy name).1 := by
  unfold Collected.variableTy
  cases found : state.context.get? name with
  | some ty => exact found
  | none => exact (Collected.get?_enter _ name name _).trans (if_pos rfl)

theorem nameTy_literalTy {name : String}
    (general : ∀ scheme, declarations.get? name = some scheme → scheme.IsGeneral) (state : Collected)
    (assignment : Nat → Ty) :
    NameTy declarations name ((state.literalTy declarations name).1.under assignment) := by
  unfold Collected.literalTy
  split
  · next isNumber => exact .number isNumber
  next notNumber =>
  split
  · next isText => exact .string notNumber isText
  next notText =>
  split
  · next isTruth => exact .bool notNumber notText isTruth
  next notTruth =>
  split
  · next scheme found =>
    exact .declared notNumber notText notTruth found ((general scheme found).hasInstance _ _)
  · next missing => exact .undeclared notNumber notText notTruth missing

/-- Wherever what has been collected is real, the collected type is a type of a term. -/
def Derives (declarations : Dict String Ty) (assignment : Nat → Ty) (term : Term) : Prop :=
  ∀ ⦃state : Collected⦄ ⦃ty : Ty⦄ ⦃after : Collected⦄ ⦃context : String → Ty⦄, state.Tidy →
    collect declarations state term = .ok (ty, after) → Realizes assignment context after →
    HasType declarations context term (ty.under assignment)

namespace Derives

variable {assignment : Nat → Ty}

theorem name (general : General declarations) (name : String) :
    Derives declarations assignment (.atom name) := by
  intro state ty after context tidy collects realizes
  by_cases isVariable : Term.isVariableName name
  · rw [collect_variable isVariable] at collects
    have found := get?_variableTy state name
    rw [Except.ok.inj collects] at found
    rw [← realizes.agrees name ty found]
    exact .inContext isVariable
  · rw [collect_name isVariable] at collects
    have nameTy := nameTy_literalTy (general name) state assignment
    rw [Except.ok.inj collects] at nameTy
    exact .name isVariable nameTy

theorem application {head arguments : Term} (drawsHead : Draws declarations head)
    (drawsArguments : Draws declarations arguments) (ofHead : Derives declarations assignment head)
    (ofArguments : Derives declarations assignment arguments) :
    Derives declarations assignment (.compound Term.applyOperator [head, arguments]) := by
  intro state ty after context tidy collects realizes
  obtain ⟨headTy, middle, argumentsTy, last, atHead, atArguments, rfl, rfl⟩ :=
    collect_application.1 collects
  have toHead := drawsHead tidy atHead
  have toArguments := drawsArguments toHead.tidy atArguments
  obtain ⟨same, realizesDrawn⟩ := realizes.of_require
  have realizesLast := realizesDrawn.earlier (Collected.grows_draw (Nat.le_succ last.supply))
  have hasHead := ofHead tidy atHead (realizesLast.earlier toArguments.grows)
  rw [same] at hasHead
  exact .application hasHead (ofArguments toHead.tidy atArguments realizesLast)

/-- All members of a list have types. -/
theorem typeable {terms : List Term} (draws : ∀ term ∈ terms, Draws declarations term)
    (derives : ∀ term ∈ terms, Derives declarations assignment term) {state after : Collected}
    (tidy : state.Tidy) (collects : collectAll declarations state terms = .ok after)
    {context : String → Ty} (realizes : Realizes assignment context after) :
    ∀ term ∈ terms, ∃ ty, HasType declarations context term ty := by
  induction terms generalizing state with
  | nil =>
    intro term member
    simp at member
  | cons first rest ih =>
    rw [List.forall_mem_cons] at draws derives ⊢
    obtain ⟨ty, middle, atFirst, atRest⟩ := collectAll_cons.1 collects
    have toFirst := draws.1 tidy atFirst
    obtain ⟨grows, -⟩ := grows_collectAll draws.2 toFirst.tidy atRest
    exact ⟨⟨_, derives.1 tidy atFirst (realizes.earlier grows)⟩, ih draws.2 derives.2 toFirst.tidy atRest⟩

theorem product {first : Term} {rest : List Term} (drawsFirst : Draws declarations first)
    (drawsRest : ∀ part ∈ rest, Draws declarations part) (ofFirst : Derives declarations assignment first)
    (ofRest : ∀ part ∈ rest, Derives declarations assignment part) :
    Derives declarations assignment (.compound Term.productOperator (first :: rest)) := by
  intro state ty after context tidy collects realizes
  obtain ⟨middle, atFirst, atRest⟩ := collect_product.1 collects
  have toFirst := drawsFirst tidy atFirst
  obtain ⟨grows, -⟩ := grows_collectAll drawsRest toFirst.tidy atRest
  exact .product_of_typeable (ofFirst tidy atFirst (realizes.earlier grows))
    (typeable drawsRest ofRest toFirst.tidy atRest realizes)

theorem equation {operator : String} (isOperator : isEquation operator) {left right : Term}
    (drawsLeft : Draws declarations left) (drawsRight : Draws declarations right)
    (ofLeft : Derives declarations assignment left) (ofRight : Derives declarations assignment right) :
    Derives declarations assignment (.compound operator [left, right]) := by
  intro state ty after context tidy collects realizes
  obtain ⟨leftTy, middle, rightTy, last, atLeft, atRight, rfl, rfl⟩ :=
    (collect_equation isOperator).1 collects
  have toLeft := drawsLeft tidy atLeft
  have toRight := drawsRight toLeft.tidy atRight
  obtain ⟨same, realizesLast⟩ := realizes.of_require
  have hasLeft := ofLeft tidy atLeft (realizesLast.earlier toRight.grows)
  rw [same] at hasLeft
  exact .equation isOperator hasLeft (ofRight toLeft.tidy atRight realizesLast)

theorem abstraction {operator : String} (isOperator : isAbstraction operator) {parameter body : Term}
    (isVariable : parameter.isVariable) (drawsBody : Draws declarations body)
    (ofBody : Derives declarations assignment body) :
    Derives declarations assignment (.compound operator [parameter, body]) := by
  intro state ty after context tidy collects realizes
  obtain ⟨bodyTy, inner, atBody, rfl, rfl⟩ := (collect_abstraction isOperator isVariable).1 collects
  have tidyInner := tidy.enter_fresh parameter.name
  have toBody := drawsBody tidyInner atBody
  -- the parameter is still in scope at the end of the body
  have bound : inner.context.get? parameter.name = some (.var state.supply) := by
    refine toBody.grows.keeps _ _ ?_
    rw [Collected.get?_enter, if_pos rfl]
  exact .abstraction isOperator isVariable (ofBody tidyInner atBody (realizes.of_leave bound))

theorem annotated {subject ascription : Term}
    (plain : ∀ declared : Ty, declared.WrittenBy ascription → declared.quantifierFree)
    (ofSubject : Derives declarations assignment subject) :
    Derives declarations assignment (.compound ":" [subject, ascription]) := by
  intro state ty after context tidy collects realizes
  obtain ⟨supply, subjectTy, last, reads, atSubject, rfl⟩ := collect_annotated.1 collects
  obtain ⟨declared, size, writes, rfl, rfl⟩ := Ty.ofTerm_eq_ok_iff.1 reads
  have free := plain declared ⟨size, writes⟩
  obtain ⟨same, realizesLast⟩ := realizes.of_require
  have hasSubject := ofSubject (tidy.draw (Nat.le_add_right _ _)) atSubject realizesLast
  rw [← same, Ty.shift_eq_under free, Ty.under_under] at hasSubject
  rw [Ty.shift_eq_under free, Ty.under_under]
  exact .annotated ⟨size, writes⟩ hasSubject

theorem other {term : Term} (noForm : ¬ Form term) : Derives declarations assignment term := by
  intro state ty after context tidy collects realizes
  rw [collect_other noForm] at collects
  cases collects
  exact .other noForm

end Derives

/-- **Soundness.** -/
theorem Plain.derives (general : General declarations) {term : Term} (plain : Plain term)
    (assignment : Nat → Ty) : Derives declarations assignment term := by
  induction term using LooksAt.induction with
  | step term ih =>
    have draws : ∀ part, LooksAt term part → Draws declarations part := fun part looks =>
      (plain.part looks).draws general
    have derives : ∀ part, LooksAt term part → Derives declarations assignment part :=
      fun part looks => ih part looks (plain.part looks)
    by_cases form : Form term
    · cases form with
      | name name => exact .name general name
      | application head arguments =>
        exact .application (draws _ (.head head arguments)) (draws _ (.arguments head arguments))
          (derives _ (.head head arguments)) (derives _ (.arguments head arguments))
      | product first rest =>
        have looks : ∀ part ∈ rest, LooksAt (.compound Term.productOperator (first :: rest)) part :=
          fun part member => .component (List.mem_cons_of_mem _ member)
        exact .product (draws _ (.component List.mem_cons_self)) (fun part member => draws _ (looks _ member))
          (derives _ (.component List.mem_cons_self)) fun part member => derives _ (looks _ member)
      | equation isOperator left right =>
        exact .equation isOperator (draws _ (.left isOperator left right))
          (draws _ (.right isOperator left right)) (derives _ (.left isOperator left right))
          (derives _ (.right isOperator left right))
      | abstraction isOperator isVariable body =>
        exact .abstraction isOperator isVariable (draws _ (.body isOperator isVariable body))
          (derives _ (.body isOperator isVariable body))
      | annotated subject ascription =>
        exact .annotated (plain ascription (.here subject ascription))
          (derives _ (.subject subject ascription))
    · exact .other form

end Soundness

end Inference

end TermSpace
