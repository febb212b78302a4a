import TermSpace.Inference.Checker
import TermSpace.Proofs.Inference.Completeness

/-!
# Principal types

What inference finds is a type of the term.  If the variables of declared types are older than those that are
drawn, inference finds a type if and only if the term has one, and then the most general one
(`Checker.infer_principal`).

By soundness and completeness the types of a term are what the collected type becomes under the assignments
that solve the constraints.  Solving the constraints gives the most general one of these.

Soundness asks nothing of the variables of declared types.  Completeness does: a declared type that is
quantified over variables not drawn yet may be used with one variable for two of them
(`Checker.infer_crossing`).
-/

namespace TermSpace

set_option autoImplicit false

namespace Inference

/-! ## Annotations -/

section Annotations

variable {declarations : Dict String Ty} {state after : Collected} {ty : Ty}

theorem exists_collect_of_collectAll {terms : List Term}
    (collects : collectAll declarations state terms = .ok after) :
    ∀ term ∈ terms, ∃ before other later, collect declarations before term = .ok (other, later) := by
  induction terms generalizing state with
  | nil =>
    intro term member
    simp at member
  | cons first rest ih =>
    obtain ⟨other, middle, atFirst, atRest⟩ := collectAll_cons.1 collects
    rw [List.forall_mem_cons]
    exact ⟨⟨state, other, middle, atFirst⟩, ih atRest⟩

/-- Going through a term goes through the parts that have a say. -/
theorem LooksAt.exists_collect {term part : Term} (looks : LooksAt term part)
    (collects : collect declarations state term = .ok (ty, after)) :
    ∃ before other later, collect declarations before part = .ok (other, later) := by
  cases looks with
  | head head arguments =>
    obtain ⟨headTy, middle, -, -, atHead, -⟩ := collect_application.1 collects
    exact ⟨state, headTy, middle, atHead⟩
  | arguments head arguments =>
    obtain ⟨-, middle, argumentsTy, last, -, atArguments, -⟩ := collect_application.1 collects
    exact ⟨middle, argumentsTy, last, atArguments⟩
  | component member =>
    obtain ⟨middle, atFirst, atRest⟩ := collect_product.1 collects
    rcases List.mem_cons.1 member with rfl | later
    · exact ⟨state, ty, middle, atFirst⟩
    · exact exists_collect_of_collectAll atRest _ later
  | left isOperator left right =>
    obtain ⟨leftTy, middle, -, -, atLeft, -⟩ := (collect_equation isOperator).1 collects
    exact ⟨state, leftTy, middle, atLeft⟩
  | right isOperator left right =>
    obtain ⟨-, middle, rightTy, last, -, atRight, -⟩ := (collect_equation isOperator).1 collects
    exact ⟨middle, rightTy, last, atRight⟩
  | body isOperator isVariable body =>
    obtain ⟨bodyTy, inner, atBody, -⟩ := (collect_abstraction isOperator isVariable).1 collects
    exact ⟨_, bodyTy, inner, atBody⟩
  | subject subject ascription =>
    obtain ⟨_, subjectTy, last, -, atSubject, -⟩ := collect_annotated.1 collects
    exact ⟨_, subjectTy, last, atSubject⟩

theorem exists_writtenBy_of_collect {term ascription : Term} (visits : Visits term ascription)
    (collects : collect declarations state term = .ok (ty, after)) :
    ∃ declared : Ty, declared.WrittenBy ascription := by
  induction visits generalizing state ty after with
  | here subject ascription =>
    obtain ⟨_, _, _, reads, -⟩ := collect_annotated.1 collects
    obtain ⟨declared, size, writes, -⟩ := Ty.ofTerm_eq_ok_iff.1 reads
    exact ⟨declared, size, writes⟩
  | inside looks _ ih =>
    obtain ⟨before, other, later, atPart⟩ := looks.exists_collect collects
    exact ih atPart

end Annotations

theorem Collected.tidy_start (supply : Nat) : (Collected.start supply).Tidy :=
  ⟨fun name ty found => by simp [Collected.start] at found,
    fun wanted member => by simp [Collected.start] at member⟩

end Inference

/-! ## Inference -/

namespace Checker

open Inference

/-- A run collects the constraints, and one more if there is an expected type, and applies their solution. -/
theorem run_eq_ok_iff {checker : Checker} {term : Term} {expected? : Option Ty} {supply : Nat}
    {inferred : Inferred} :
    checker.run term expected? supply = .ok inferred ↔
      ∃ ty after solution left,
        collect checker.declarations (.start supply) term = .ok (ty, after) ∧
        checker.strategy.solve (expected?.elim after (after.require · ty term)).constraints.reverse
          after.supply = .ok (solution, left) ∧
        inferred = ⟨solution.apply ty, solution, after.seen.mapValues solution.apply⟩ := by
  cases expected?
  all_goals
    unfold run
    rw [bind_eq_ok]
    constructor
    · rintro ⟨⟨ty, after⟩, collects, rest⟩
      obtain ⟨⟨solution, left⟩, solves, same⟩ := bind_eq_ok.1 rest
      cases same
      exact ⟨ty, after, solution, left, collects, solves, rfl⟩
    · rintro ⟨ty, after, solution, left, collects, solves, rfl⟩
      exact ⟨(ty, after), collects, bind_eq_ok.2 ⟨(solution, left), solves, rfl⟩⟩

theorem infer_eq_ok_iff {checker : Checker} {term : Term} {supply : Nat} {inferred : Inferred} :
    checker.infer term supply = .ok inferred ↔
      ∃ ty after solution left,
        collect checker.declarations (.start supply) term = .ok (ty, after) ∧
        checker.strategy.solve after.constraints.reverse after.supply = .ok (solution, left) ∧
        inferred = ⟨solution.apply ty, solution, after.seen.mapValues solution.apply⟩ := run_eq_ok_iff

theorem quantifierFree_reverse {state : Collected} (tidy : state.Tidy) :
    ∀ wanted ∈ state.constraints.reverse, wanted.QuantifierFree := by
  intro wanted member
  obtain ⟨drawnLeft, drawnRight⟩ := tidy.constraints wanted (List.mem_reverse.1 member)
  exact ⟨drawnLeft.free, drawnRight.free⟩

theorem solves_reverse {assignment : Nat → Ty} {constraints : List Constraint} :
    Solves assignment constraints.reverse ↔ Solves assignment constraints := by
  unfold Solves
  simp only [List.mem_reverse]

/-- What has been collected is solved by what the solution puts for the variables. -/
theorem solves_image_of_solve {state : Collected} (tidy : state.Tidy) {supply left : Nat} {solution : Subst}
    (solves : Strategy.hindleyMilner.solve state.constraints.reverse supply = .ok (solution, left)) :
    solution.Regular ∧ Solves solution.image state.constraints := by
  obtain ⟨-, regular, solutions⟩ := Strategy.solve_exact (quantifierFree_reverse tidy) solves
  exact ⟨regular, solves_reverse.1 ((solutions _).1 regular.acyclic.solvedBy_image)⟩

section Inferring

variable {declarations : Dict String Ty} {term : Term} {supply : Nat}

/-- Under an assignment that solves the constraints, the collected type is a type of the term. -/
theorem hasType_of_solves (general : General declarations) (plain : Plain term) {ty : Ty} {after : Collected}
    (collects : collect declarations (.start supply) term = .ok (ty, after)) {assignment : Nat → Ty}
    (all : Solves assignment after.constraints) :
    ∃ context, HasType declarations context term (ty.under assignment) := by
  refine ⟨fun name => ((after.context.get? name).map (·.under assignment)).getD .atom, ?_⟩
  refine plain.derives general _ (Collected.tidy_start supply) collects ⟨all, ?_⟩
  intro name bound found
  rw [found]
  rfl

/-- What is inferred is a type of the term. -/
theorem hasType_of_infer (general : General declarations) (plain : Plain term) {inferred : Inferred}
    (infers : Checker.infer ⟨.hindleyMilner, declarations⟩ term supply = .ok inferred) :
    ∃ context, HasType declarations context term inferred.ty := by
  obtain ⟨ty, after, solution, left, collects, solves, rfl⟩ := infer_eq_ok_iff.1 infers
  have toAfter := plain.draws general (Collected.tidy_start supply) collects
  rw [Subst.apply_eq_under]
  exact hasType_of_solves general plain collects (solves_image_of_solve toAfter.tidy solves).2

/-- A term with a type has all constraints solved by an assignment. -/
theorem exists_solves_of_hasType (general : General declarations) (plain : Plain term)
    (older : DeclaredBefore declarations supply) {context : String → Ty} {target : Ty}
    (hasType : HasType declarations context term target) :
    ∃ ty after assignment, collect declarations (.start supply) term = .ok (ty, after) ∧
      after.Tidy ∧ Solves assignment after.constraints.reverse ∧ target = ty.under assignment := by
  have tidyStart := Collected.tidy_start supply
  obtain ⟨ty, after, assignment, collects, -, realizes, same⟩ :=
    hasType.follows general plain tidyStart older (Realizes.start .var context supply)
  exact ⟨ty, after, assignment, collects, (plain.draws general tidyStart collects).tidy,
    solves_reverse.2 realizes.solves, same⟩

/-- A term with a type has a type inferred. -/
theorem exists_infer_of_hasType (general : General declarations) (plain : Plain term)
    (older : DeclaredBefore declarations supply) {context : String → Ty} {target : Ty}
    (hasType : HasType declarations context term target) :
    ∃ inferred, Checker.infer ⟨.hindleyMilner, declarations⟩ term supply = .ok inferred := by
  obtain ⟨ty, after, assignment, collects, tidy, all, -⟩ :=
    exists_solves_of_hasType general plain older hasType
  obtain ⟨solution, left, solves⟩ :=
    (Strategy.solve_isOk_iff after.supply (quantifierFree_reverse tidy)).2 ⟨assignment, all⟩
  exact ⟨_, infer_eq_ok_iff.2 ⟨ty, after, solution, left, collects, solves, rfl⟩⟩

/-- Every type of a term is an instance of the inferred one. -/
theorem instance_of_infer (general : General declarations) (plain : Plain term)
    (older : DeclaredBefore declarations supply) {inferred : Inferred}
    (infers : Checker.infer ⟨.hindleyMilner, declarations⟩ term supply = .ok inferred)
    {context : String → Ty} {target : Ty} (hasType : HasType declarations context term target) :
    ∃ assignment, target = inferred.ty.under assignment := by
  obtain ⟨ty, after, solution, left, collects, solves, rfl⟩ := infer_eq_ok_iff.1 infers
  obtain ⟨ty', after', assignment, collects', tidy, all, same⟩ :=
    exists_solves_of_hasType general plain older hasType
  rw [collects] at collects'
  cases collects'
  refine ⟨assignment, ?_⟩
  rw [same]
  exact Strategy.factor_of_solve (quantifierFree_reverse tidy) solves all ty

end Inferring

/-- **Inference is sound and principal.** Take generalized declarations and a term whose annotations are
without quantifiers.  If inference succeeds, then all annotations that have a say write types, and the
inferred type is one of the term by the rules.  If all variables of the declared types were drawn before,
inference succeeds if and only if these annotations write types and the term has a type, and every type of the
term is an instance of the inferred one. -/
theorem infer_principal {declarations : Dict String Ty} (general : General declarations) {term : Term}
    (plain : Plain term) (supply : Nat) :
    (∀ inferred, Checker.infer ⟨.hindleyMilner, declarations⟩ term supply = .ok inferred →
      (∀ ascription, Visits term ascription → ∃ declared : Ty, declared.WrittenBy ascription) ∧
        ∃ context, HasType declarations context term inferred.ty) ∧
    (DeclaredBefore declarations supply →
      ((∃ inferred, Checker.infer ⟨.hindleyMilner, declarations⟩ term supply = .ok inferred) ↔
        (∀ ascription, Visits term ascription → ∃ declared : Ty, declared.WrittenBy ascription) ∧
          ∃ context ty, HasType declarations context term ty) ∧
      ∀ inferred, Checker.infer ⟨.hindleyMilner, declarations⟩ term supply = .ok inferred →
        ∀ context ty, HasType declarations context term ty →
          ∃ assignment, ty = inferred.ty.under assignment) := by
  have sound : ∀ inferred, Checker.infer ⟨.hindleyMilner, declarations⟩ term supply = .ok inferred →
      (∀ ascription, Visits term ascription → ∃ declared : Ty, declared.WrittenBy ascription) ∧
        ∃ context, HasType declarations context term inferred.ty := by
    intro inferred infers
    obtain ⟨ty, after, -, -, collects, -⟩ := infer_eq_ok_iff.1 infers
    exact ⟨fun ascription visits => exists_writtenBy_of_collect visits collects,
      hasType_of_infer general plain infers⟩
  refine ⟨sound, fun older => ⟨⟨?_, ?_⟩, ?_⟩⟩
  · rintro ⟨inferred, infers⟩
    obtain ⟨written, context, hasType⟩ := sound inferred infers
    exact ⟨written, context, _, hasType⟩
  · rintro ⟨-, context, ty, hasType⟩
    exact exists_infer_of_hasType general plain older hasType
  · intro inferred infers context ty hasType
    exact instance_of_infer general plain older infers hasType

/-! ## Declared names -/

/-- Declared types stay generalized. -/
theorem general_declare {checker : Checker} (general : General checker.declarations) (name : String) {ty : Ty}
    (free : ty.quantifierFree) : General (checker.declare name ty).declarations := by
  intro other scheme found
  unfold declare at found
  rw [Dict.get?_insert] at found
  split at found
  · exact ⟨ty, free, (Option.some.inj found).symm⟩
  · exact general other scheme found

/-- A type of variables that were drawn before may be declared. -/
theorem declaredBefore_declare {checker : Checker} {supply : Nat}
    (older : DeclaredBefore checker.declarations supply) (name : String) {ty : Ty}
    (before : ∀ id ∈ ty.generalize.binders, id < supply) :
    DeclaredBefore (checker.declare name ty).declarations supply := by
  intro other scheme found
  unfold declare at found
  rw [Dict.get?_insert] at found
  split at found
  · exact Option.some.inj found ▸ before
  · exact older other scheme found

/-- The checker without declarations. -/
def bare : Checker := ⟨.hindleyMilner, ∅⟩

theorem general_bare : General bare.declarations := fun name scheme found => by simp [bare] at found

theorem declaredBefore_bare (supply : Nat) : DeclaredBefore bare.declarations supply :=
  fun name scheme found => by simp [bare] at found

/-- A name `wrap` of type `(-> $a (List $a))`, for all `$a`. -/
def wrapping : Dict String Ty := (bare.declare "wrap" (.arrow (.var 0) (.list (.var 0)))).declarations

theorem general_wrapping : General wrapping := general_declare general_bare "wrap" rfl

/-- The abstraction of `(^ wrap (* $x))` over `$x`, said to have a function type. -/
def wrapper : Term :=
  .compound ":" [.compound "lambda" [.atom "$x",
      .compound "^" [.atom "wrap", .compound "*" [.atom "$x"]]],
    .compound "->" [.atom "$c", .atom "$d"]]

/-- The annotation leaves both sides open, and the principal type closes the second one. -/
theorem infer_principal_wrapper :
    General wrapping ∧ Plain wrapper ∧ DeclaredBefore wrapping 5 ∧
    ∃ inferred, Checker.infer ⟨.hindleyMilner, wrapping⟩ wrapper 5 = .ok inferred ∧
      inferred.ty = .arrow (.var 7) (.list (.var 7)) ∧
      (∃ context, HasType wrapping context wrapper inferred.ty) ∧
      ∀ context ty, HasType wrapping context wrapper ty →
        ∃ assignment, ty = Ty.under assignment (.arrow (.var 7) (.list (.var 7))) := by
  have plain : Plain wrapper := by
    intro ascription visits declared written
    obtain ⟨subject, within⟩ := visits.exists_part
    have same : ascription = .compound "->" [.atom "$c", .atom "$d"] := by
      simp_all [wrapper, Term.Part.compound_iff]
    subst same
    obtain ⟨size, writes⟩ := written
    cases writes
    rfl
  have older : DeclaredBefore wrapping 5 := declaredBefore_declare (declaredBefore_bare 5) "wrap" (by decide)
  obtain ⟨sound, complete⟩ := infer_principal general_wrapping plain 5
  exact ⟨general_wrapping, plain, older, _, rfl, rfl, (sound _ rfl).2, (complete older).2 _ rfl⟩

/-- A name `cross` of type `(-> $a $b)`, for all `$a` and `$b`, which are the variables `2` and `1`. -/
def crossing : Dict String Ty := (bare.declare "cross" (.arrow (.var 2) (.var 1))).declarations

theorem general_crossing : General crossing := general_declare general_bare "cross" rfl

theorem hasType_crossing (context : String → Ty) (source target : Ty) :
    HasType crossing context (.atom "cross") (.arrow source target) := by
  refine .name (by decide) (.declared (by decide) (by decide) (by decide) rfl ?_)
  exact ⟨.arrow (.var 2) (.var 1), fun id => if id = 2 then source else target, rfl, rfl, rfl⟩

theorem plain_atom (name : String) : Plain (.atom name) := by
  intro ascription visits
  cases visits with
  | inside looks _ => cases looks

/-- **Variables that were not drawn yet get captured.** With the supply `1` the variable drawn for `2` is `1`, and
the quantifier over `1` captures it.  The inferred type of `cross` then goes from a type to the same type, which
is not the most general one. -/
theorem infer_crossing :
    General crossing ∧ Plain (.atom "cross") ∧
    ∃ inferred, Checker.infer ⟨.hindleyMilner, crossing⟩ (.atom "cross") 1 = .ok inferred ∧
      inferred.ty = .arrow (.var 2) (.var 2) ∧
      ∃ context ty, HasType crossing context (.atom "cross") ty ∧
        ¬ ∃ assignment, ty = inferred.ty.under assignment := by
  refine ⟨general_crossing, plain_atom "cross", _, rfl, rfl, fun _ => .atom, .arrow .number .bool,
    hasType_crossing _ _ _, ?_⟩
  rintro ⟨assignment, same⟩
  obtain ⟨source, target⟩ := Ty.arrow.inj same
  exact absurd (source.trans target.symm) (by decide)

end Checker

end TermSpace
