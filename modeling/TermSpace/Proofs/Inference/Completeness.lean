import TermSpace.Proofs.Inference.Soundness

/-!
# Completeness of inference

If a term has a type by the rules, then collecting goes through it, and some assignment makes the collected
type that type (`HasType.follows`).  What carries the induction is that the assignment extends one
for what was collected before: only the variables drawn on the way are free to choose, and no type
collected before mentions them.  The quantified variables of declared types have to be older than the supply for
this (`DeclaredBefore`), as only then a use of a declared name gets one variable for each of them.
-/

namespace TermSpace

set_option autoImplicit false

namespace Inference

section Completeness

variable {declarations : Dict String Ty}

/-- Going through a term extends every assignment under which the state before it is real, so that the state
after it is real as well and the collected type stands for a given one. -/
def Follows (declarations : Dict String Ty) (context : String → Ty) (term : Term) (target : Ty) : Prop :=
  ∀ ⦃state : Collected⦄ ⦃first : Nat → Ty⦄, state.Tidy → DeclaredBefore declarations state.supply →
    Realizes first context state →
    ∃ ty after assignment, collect declarations state term = .ok (ty, after) ∧
      (∀ id < state.supply, assignment id = first id) ∧ Realizes assignment context after ∧
      target = ty.under assignment

theorem literalTy_of_nameTy {name : String} {target : Ty} (nameTy : NameTy declarations name target)
    {state : Collected} (older : DeclaredBefore declarations state.supply) :
    ∃ rest, ∀ first,
      target = (state.literalTy declarations name).1.under (Ty.splice state.supply first rest) := by
  unfold Collected.literalTy
  cases nameTy with
  | number isNumber =>
    rw [if_pos isNumber]
    exact ⟨.var, fun _ => rfl⟩
  | string notNumber isText =>
    rw [if_neg notNumber, if_pos isText]
    exact ⟨.var, fun _ => rfl⟩
  | bool notNumber notText isTruth =>
    rw [if_neg notNumber, if_neg notText, if_pos isTruth]
    exact ⟨.var, fun _ => rfl⟩
  | declared notNumber notText notTruth found isInstance =>
    rw [if_neg notNumber, if_neg notText, if_neg notTruth, found]
    exact isInstance.of_fresh (older name _ found)
  | undeclared notNumber notText notTruth missing =>
    rw [if_neg notNumber, if_neg notText, if_neg notTruth, missing]
    exact ⟨.var, fun _ => rfl⟩

namespace Follows

variable {context : String → Ty}

theorem inContext {name : String} (isVariable : Term.isVariableName name) :
    Follows declarations context (.atom name) (context name) := by
  intro state first tidy older realizes
  rw [collect_variable isVariable]
  cases found : state.context.get? name with
  | some ty =>
    have same : state.variableTy name = (ty, state) := by
      rw [Collected.variableTy, found]
    exact ⟨ty, state, first, by rw [same], fun _ _ => rfl, realizes, realizes.agrees name ty found⟩
  | none =>
    have same : state.variableTy name =
        (.var state.supply, { state with supply := state.supply + 1 }.enter name (.var state.supply)) := by
      rw [Collected.variableTy, found]
      rfl
    have agree := Ty.splice_agrees state.supply first fun _ => context name
    have stands := Ty.splice_self state.supply first (context name)
    refine ⟨.var state.supply, _, Ty.splice state.supply first fun _ => context name, by rw [same], agree,
      ?_, stands.symm⟩
    have entered := realizes.enter_fresh tidy name (context name)
    rwa [Function.update_eq_self] at entered

theorem name {name : String}
    (general : ∀ scheme, declarations.get? name = some scheme → scheme.IsGeneral)
    (notVariable : ¬ Term.isVariableName name) {target : Ty} (nameTy : NameTy declarations name target) :
    Follows declarations context (.atom name) target := by
  intro state first tidy older realizes
  obtain ⟨rest, stands⟩ := literalTy_of_nameTy nameTy older
  obtain ⟨supply, -, same, -⟩ := Collected.literalTy_snd general state
  have agree := Ty.splice_agrees state.supply first rest
  refine ⟨(state.literalTy declarations name).1, (state.literalTy declarations name).2,
    Ty.splice state.supply first rest, collect_name notVariable, agree, ?_, stands first⟩
  rw [same]
  exact (realizes.congr tidy agree).draw supply

theorem application {head arguments : Term} {source target : Ty} (drawsHead : Draws declarations head)
    (drawsArguments : Draws declarations arguments)
    (ofHead : Follows declarations context head (.arrow source target))
    (ofArguments : Follows declarations context arguments source) :
    Follows declarations context (.compound Term.applyOperator [head, arguments]) target := by
  intro state first tidy older realizes
  obtain ⟨headTy, middle, second, atHead, agreeHead, realizesMiddle, standsHead⟩ := ofHead tidy older realizes
  have toHead := drawsHead tidy atHead
  obtain ⟨argumentsTy, last, third, atArguments, agreeArguments, realizesLast, standsArguments⟩ :=
    ofArguments toHead.tidy (older.mono toHead.grows.le_supply) realizesMiddle
  have toArguments := drawsArguments toHead.tidy atArguments
  have orderHead := toHead.grows.le_supply
  have orderArguments := toArguments.grows.le_supply
  -- the fresh variable for the result stands for the target
  have agree := Ty.splice_agrees last.supply third fun _ => target
  have stands := Ty.splice_self last.supply third target
  have headStands : headTy.under (Ty.splice last.supply third fun _ => target) = .arrow source target := by
    rw [(toHead.drawn.mono orderArguments).under_eq agree, toHead.drawn.under_eq agreeArguments, standsHead]
  have argumentsStand : argumentsTy.under (Ty.splice last.supply third fun _ => target) = source := by
    rw [toArguments.drawn.under_eq agree, standsArguments]
  refine ⟨.var last.supply, _, Ty.splice last.supply third fun _ => target,
    collect_application.2 ⟨headTy, middle, argumentsTy, last, atHead, atArguments, rfl, rfl⟩, ?_, ?_,
    stands.symm⟩
  · intro id before
    rw [agree id (by omega), agreeArguments id (by omega), agreeHead id before]
  · refine ((realizesLast.congr toArguments.tidy agree).draw _).require ?_ _
    rw [headStands, Ty.under_arrow, argumentsStand, Ty.under_var, stands]

theorem collectAll {terms : List Term} (draws : ∀ term ∈ terms, Draws declarations term)
    (follows : ∀ term ∈ terms, ∃ target, Follows declarations context term target) {state : Collected}
    (tidy : state.Tidy) (older : DeclaredBefore declarations state.supply) {first : Nat → Ty}
    (realizes : Realizes first context state) :
    ∃ after assignment, Inference.collectAll declarations state terms = .ok after ∧
      (∀ id < state.supply, assignment id = first id) ∧ Realizes assignment context after := by
  induction terms generalizing state first with
  | nil => exact ⟨state, first, rfl, fun _ _ => rfl, realizes⟩
  | cons term rest ih =>
    rw [List.forall_mem_cons] at draws follows
    obtain ⟨target, ofTerm⟩ := follows.1
    obtain ⟨ty, middle, second, atTerm, agree, realizesMiddle, -⟩ := ofTerm tidy older realizes
    have toTerm := draws.1 tidy atTerm
    obtain ⟨after, third, atRest, agree', realizesAfter⟩ :=
      ih draws.2 follows.2 toTerm.tidy (older.mono toTerm.grows.le_supply) realizesMiddle
    refine ⟨after, third, collectAll_cons.2 ⟨ty, middle, atTerm, atRest⟩, ?_, realizesAfter⟩
    intro id before
    rw [agree' id (Nat.lt_of_lt_of_le before toTerm.grows.le_supply), agree id before]

theorem product {firstTerm : Term} {rest : List Term} {target : Ty}
    (drawsFirst : Draws declarations firstTerm) (drawsRest : ∀ part ∈ rest, Draws declarations part)
    (ofFirst : Follows declarations context firstTerm target)
    (ofRest : ∀ part ∈ rest, ∃ other, Follows declarations context part other) :
    Follows declarations context (.compound Term.productOperator (firstTerm :: rest)) target := by
  intro state first tidy older realizes
  obtain ⟨firstTy, middle, second, atFirst, agreeFirst, realizesMiddle, standsFirst⟩ :=
    ofFirst tidy older realizes
  have toFirst := drawsFirst tidy atFirst
  obtain ⟨after, third, atRest, agreeRest, realizesAfter⟩ :=
    collectAll drawsRest ofRest toFirst.tidy (older.mono toFirst.grows.le_supply) realizesMiddle
  refine ⟨firstTy, after, third, collect_product.2 ⟨middle, atFirst, atRest⟩, ?_, realizesAfter, ?_⟩
  · intro id before
    rw [agreeRest id (Nat.lt_of_lt_of_le before toFirst.grows.le_supply), agreeFirst id before]
  · rw [standsFirst, toFirst.drawn.under_eq agreeRest]

theorem equation {operator : String} (isOperator : isEquation operator) {left right : Term} {side : Ty}
    (drawsLeft : Draws declarations left) (ofLeft : Follows declarations context left side)
    (ofRight : Follows declarations context right side) :
    Follows declarations context (.compound operator [left, right]) .bool := by
  intro state first tidy older realizes
  obtain ⟨leftTy, middle, second, atLeft, agreeLeft, realizesMiddle, standsLeft⟩ := ofLeft tidy older realizes
  have toLeft := drawsLeft tidy atLeft
  obtain ⟨rightTy, last, third, atRight, agreeRight, realizesLast, standsRight⟩ :=
    ofRight toLeft.tidy (older.mono toLeft.grows.le_supply) realizesMiddle
  refine ⟨_, _, third,
    (collect_equation isOperator).2 ⟨leftTy, middle, rightTy, last, atLeft, atRight, rfl, rfl⟩, ?_,
    realizesLast.require ?_ _, rfl⟩
  · intro id before
    rw [agreeRight id (Nat.lt_of_lt_of_le before toLeft.grows.le_supply), agreeLeft id before]
  · rw [toLeft.drawn.under_eq agreeRight, ← standsLeft, ← standsRight]

theorem abstraction {operator : String} (isOperator : isAbstraction operator) {parameter body : Term}
    (isVariable : parameter.isVariable) {source target : Ty}
    (ofBody : Follows declarations (Function.update context parameter.name source) body target) :
    Follows declarations context (.compound operator [parameter, body]) (.arrow source target) := by
  intro state first tidy older realizes
  have agree := Ty.splice_agrees state.supply first fun _ => source
  have stands := Ty.splice_self state.supply first source
  obtain ⟨bodyTy, inner, second, atBody, agreeBody, realizesInner, standsBody⟩ :=
    ofBody (tidy.enter_fresh parameter.name) (older.mono (Nat.le_succ _))
      (realizes.enter_fresh tidy parameter.name source)
  have agreeOutside : ∀ id < state.supply, second id = first id := by
    intro id before
    rw [agreeBody id (Nat.lt_succ_of_lt before), agree id before]
  have standsParameter : second state.supply = source := by
    rw [agreeBody state.supply (Nat.lt_succ_self _), stands]
  refine ⟨_, _, second, (collect_abstraction isOperator isVariable).2 ⟨bodyTy, inner, atBody, rfl, rfl⟩,
    agreeOutside, realizesInner.leave ?_, ?_⟩
  · intro ty found
    rw [realizes.agrees _ _ found, (tidy.context _ _ found).under_eq agreeOutside]
  · rw [Ty.under_arrow, Ty.under_var, standsParameter, ← standsBody]

theorem annotated {subject ascription : Term} {declared : Ty} (free : declared.quantifierFree)
    {assignment : Nat → Ty} (written : declared.WrittenBy ascription)
    (ofSubject : Follows declarations context subject (declared.under assignment)) :
    Follows declarations context (.compound ":" [subject, ascription]) (declared.under assignment) := by
  intro state first tidy older realizes
  obtain ⟨size, writes⟩ := written
  have reads : Ty.ofTerm ascription state.supply =
      .ok (declared.shift state.supply, state.supply + size) :=
    Ty.ofTerm_eq_ok_iff.2 ⟨declared, size, writes, rfl, rfl⟩
  have order : state.supply ≤ state.supply + size := Nat.le_add_right _ _
  have drawn : (declared.shift state.supply).Drawn (state.supply + size) := by
    rw [Ty.shift_eq_under free]
    exact Ty.drawn_copy free (Ty.lt_of_ofTerm writes)
  have agree := Ty.splice_agrees state.supply first assignment
  have stands : (declared.shift state.supply).under (Ty.splice state.supply first assignment) =
      declared.under assignment := by
    rw [Ty.shift_eq_under free, Ty.under_splice]
  obtain ⟨subjectTy, last, second, atSubject, agreeSubject, realizesLast, standsSubject⟩ :=
    ofSubject (tidy.draw order) (older.mono order) ((realizes.congr tidy agree).draw _)
  have standsDeclared : declared.under assignment = (declared.shift state.supply).under second := by
    rw [drawn.under_eq agreeSubject, stands]
  refine ⟨_, _, second, collect_annotated.2 ⟨_, subjectTy, last, reads, atSubject, rfl⟩, ?_,
    realizesLast.require ?_ _, standsDeclared⟩
  · intro id before
    rw [agreeSubject id (Nat.lt_of_lt_of_le before order), agree id before]
  · rw [← standsDeclared, standsSubject]

theorem other {term : Term} (noForm : ¬ Form term) : Follows declarations context term .atom := by
  intro state first tidy older realizes
  exact ⟨.atom, state, first, collect_other noForm, fun _ _ => rfl, realizes, rfl⟩

end Follows

/-- **Completeness.** -/
theorem HasType.follows (general : General declarations) {term : Term} (plain : Plain term)
    {context : String → Ty} {target : Ty} (hasType : HasType declarations context term target) :
    Follows declarations context term target := by
  induction hasType with
  | inContext isVariable => exact .inContext isVariable
  | name notVariable nameTy => exact .name (general _) notVariable nameTy
  | @application context head arguments source target _ _ headIH argumentsIH =>
    have plainHead := plain.part (.head head arguments)
    have plainArguments := plain.part (.arguments head arguments)
    exact .application (plainHead.draws general) (plainArguments.draws general) (headIH plainHead)
      (argumentsIH plainArguments)
  | @product context first rest ty _ others _ firstIH restIH =>
    have plainFirst : Plain first := plain.part (.component List.mem_cons_self)
    have plainRest : ∀ part ∈ rest, Plain part := by
      intro part member
      exact plain.part (.component (List.mem_cons_of_mem _ member))
    refine .product (plainFirst.draws general) ?_ (firstIH plainFirst) ?_
    · intro part member
      exact (plainRest part member).draws general
    · intro part member
      exact ⟨others part, restIH part member (plainRest part member)⟩
  | @equation context operator left right ty isOperator _ _ leftIH rightIH =>
    have plainLeft := plain.part (.left isOperator left right)
    exact .equation isOperator (plainLeft.draws general) (leftIH plainLeft)
      (rightIH (plain.part (.right isOperator left right)))
  | @abstraction context operator parameter body source target isOperator isVariable _ bodyIH =>
    exact .abstraction isOperator isVariable (bodyIH (plain.part (.body isOperator isVariable body)))
  | @annotated context subject ascription declared assignment written _ subjectIH =>
    exact .annotated (plain ascription (.here subject ascription) declared written) written
      (subjectIH (plain.part (.subject subject ascription)))
  | other noForm => exact .other noForm

end Completeness

end Inference

end TermSpace
