import TermSpace.Proofs.Inference.Principal
import TermSpace.Proofs.Ty.Variants

/-!
# Checking agrees with inference

Checking a term against an expected type asks for what the inferred type and the expected one have in common.
It succeeds if and only if a type is inferred and, renamed apart, is unifiable with the expected one, and it
answers with their most general common instance (`Checker.check_infer`).

Checking and inference solve different constraints, with different variables.  They meet at the types that the
term has by the rules.  These are the instances of the inferred type (`Checker.exists_hasType_iff_covers`),
and checking finds the most general one among them that the expected type covers.

What makes that work is that the variables of the expected type are older than those drawn for the term.  A
type of the term comes from an assignment that is free to choose on the older variables, and there it can be
the one that makes the expected type that type (`Checker.exists_solves_of_common`).
-/

namespace TermSpace

set_option autoImplicit false

open Inference

theorem Solves.under {assignment : Nat → Ty} {constraints : List Constraint}
    (all : Solves assignment constraints) (further : Nat → Ty) :
    Solves (fun id => (assignment id).under further) constraints := by
  intro wanted member
  have holds := all wanted member
  unfold Constraint.Holds at holds ⊢
  rw [← Ty.under_under, ← Ty.under_under, holds]

namespace Checker

theorem check_eq_ok_iff {checker : Checker} {term : Term} {expected ty : Ty} {supply : Nat} :
    checker.check term expected supply = .ok ty ↔
      ∃ collected after solution left,
        collect checker.declarations (.start supply) term = .ok (collected, after) ∧
        checker.strategy.solve (after.require expected collected term).constraints.reverse after.supply =
          .ok (solution, left) ∧
        ty = solution.apply collected := by
  unfold check
  rw [map_eq_ok]
  constructor
  · rintro ⟨inferred, runs, rfl⟩
    obtain ⟨collected, after, solution, left, collects, solves, rfl⟩ := run_eq_ok_iff.1 runs
    exact ⟨collected, after, solution, left, collects, solves, rfl⟩
  · rintro ⟨collected, after, solution, left, collects, solves, rfl⟩
    exact ⟨_, run_eq_ok_iff.2 ⟨collected, after, solution, left, collects, solves, rfl⟩, rfl⟩

section Checking

variable {declarations : Dict String Ty} {term : Term} {supply : Nat}

/-! ## The types of a term -/

theorem quantifierFree_of_infer (general : General declarations) (plain : Plain term) {inferred : Inferred}
    (infers : Checker.infer ⟨.hindleyMilner, declarations⟩ term supply = .ok inferred) :
    inferred.ty.quantifierFree := by
  obtain ⟨ty, after, solution, left, collects, solves, rfl⟩ := infer_eq_ok_iff.1 infers
  have toAfter := plain.draws general (Collected.tidy_start supply) collects
  obtain ⟨regular, -⟩ := solves_image_of_solve toAfter.tidy solves
  exact regular.quantifierFree.apply toAfter.drawn.free

/-- **The types of a term are the instances of the inferred one.** -/
theorem exists_hasType_iff_covers (general : General declarations) (plain : Plain term)
    (older : DeclaredBefore declarations supply) {inferred : Inferred}
    (infers : Checker.infer ⟨.hindleyMilner, declarations⟩ term supply = .ok inferred) {target : Ty} :
    (∃ context, HasType declarations context term target) ↔ inferred.ty.Covers target := by
  constructor
  · rintro ⟨context, hasType⟩
    exact instance_of_infer general plain older infers hasType
  · rintro ⟨assignment, rfl⟩
    obtain ⟨ty, after, solution, left, collects, solves, rfl⟩ := infer_eq_ok_iff.1 infers
    have toAfter := plain.draws general (Collected.tidy_start supply) collects
    obtain ⟨-, all⟩ := solves_image_of_solve toAfter.tidy solves
    rw [Subst.apply_eq_under, Ty.under_under]
    exact hasType_of_solves general plain collects (all.under assignment)

/-! ## Checking -/

/-- What has been collected for checking is drawn, with a supply past the expected type. -/
theorem tidy_require (general : General declarations) (plain : Plain term) {expected : Ty}
    (drawn : expected.Drawn supply) {ty : Ty} {after : Collected}
    (collects : collect declarations (.start supply) term = .ok (ty, after)) :
    (after.require expected ty term).Tidy := by
  have toAfter := plain.draws general (Collected.tidy_start supply) collects
  exact toAfter.tidy.require (drawn.mono toAfter.grows.le_supply) toAfter.drawn term

/-- What checking answers is a type of the term that the expected type covers. -/
theorem common_of_check (general : General declarations) (plain : Plain term) {expected : Ty}
    (drawn : expected.Drawn supply) {ty : Ty}
    (checks : Checker.check ⟨.hindleyMilner, declarations⟩ term expected supply = .ok ty) :
    (∃ context, HasType declarations context term ty) ∧ expected.Covers ty := by
  obtain ⟨collected, after, solution, left, collects, solves, rfl⟩ := check_eq_ok_iff.1 checks
  obtain ⟨-, all⟩ := solves_image_of_solve (tidy_require general plain drawn collects) solves
  obtain ⟨same, rest⟩ := solves_cons.1 all
  rw [Subst.apply_eq_under]
  exact ⟨hasType_of_solves general plain collects rest, solution.image, same.symm⟩

/-- A type of the term that the expected type covers solves the constraints of checking. -/
theorem exists_solves_of_common (general : General declarations) (plain : Plain term)
    (older : DeclaredBefore declarations supply) {expected : Ty} (drawn : expected.Drawn supply)
    {context : String → Ty} {common : Ty}
    (hasType : HasType declarations context term common) (covers : expected.Covers common) :
    ∃ collected after assignment, collect declarations (.start supply) term = .ok (collected, after) ∧
      Solves assignment (after.require expected collected term).constraints.reverse ∧
      common = collected.under assignment := by
  obtain ⟨first, ofExpected⟩ := covers
  obtain ⟨collected, after, assignment, collects, agree, realizes, same⟩ :=
    hasType.follows general plain (Collected.tidy_start supply) older (Realizes.start first context supply)
  refine ⟨collected, after, assignment, collects, solves_reverse.2 (solves_cons.2 ⟨?_, realizes.solves⟩), same⟩
  calc expected.under assignment
      = expected.under first := drawn.under_eq agree
    _ = common := ofExpected.symm
    _ = collected.under assignment := same

/-- Checking succeeds if the term has a type that the expected type covers. -/
theorem exists_check_of_common (general : General declarations) (plain : Plain term)
    (older : DeclaredBefore declarations supply) {expected : Ty} (drawn : expected.Drawn supply)
    {context : String → Ty} {common : Ty}
    (hasType : HasType declarations context term common) (covers : expected.Covers common) :
    ∃ ty, Checker.check ⟨.hindleyMilner, declarations⟩ term expected supply = .ok ty := by
  obtain ⟨collected, after, assignment, collects, all, -⟩ :=
    exists_solves_of_common general plain older drawn hasType covers
  have free := quantifierFree_reverse (tidy_require general plain drawn collects)
  obtain ⟨solution, left, solves⟩ := (Strategy.solve_isOk_iff after.supply free).2 ⟨assignment, all⟩
  exact ⟨_, check_eq_ok_iff.2 ⟨collected, after, solution, left, collects, solves, rfl⟩⟩

/-- What checking answers covers all types of the term that the expected type covers. -/
theorem covers_of_check (general : General declarations) (plain : Plain term)
    (older : DeclaredBefore declarations supply) {expected : Ty} (drawn : expected.Drawn supply) {ty : Ty}
    (checks : Checker.check ⟨.hindleyMilner, declarations⟩ term expected supply = .ok ty)
    {context : String → Ty} {common : Ty} (hasType : HasType declarations context term common)
    (covers : expected.Covers common) : ty.Covers common := by
  obtain ⟨collected, after, solution, left, collects, solves, rfl⟩ := check_eq_ok_iff.1 checks
  obtain ⟨collected', after', assignment, collects', all, same⟩ :=
    exists_solves_of_common general plain older drawn hasType covers
  cases collects.symm.trans collects'
  have free := quantifierFree_reverse (tidy_require general plain drawn collects)
  exact ⟨assignment, same.trans (Strategy.factor_of_solve free solves all collected)⟩

/-- **Checking finds the most general instance** that the inferred type and the expected one have in common. -/
theorem mostGeneralInstance_of_check (general : General declarations) (plain : Plain term)
    (older : DeclaredBefore declarations supply) {expected : Ty} (drawn : expected.Drawn supply) {ty : Ty}
    (checks : Checker.check ⟨.hindleyMilner, declarations⟩ term expected supply = .ok ty)
    {earlier : Nat} (olderThen : DeclaredBefore declarations earlier) {inferred : Inferred}
    (infers : Checker.infer ⟨.hindleyMilner, declarations⟩ term earlier = .ok inferred) :
    Ty.MostGeneralInstance inferred.ty expected ty := by
  obtain ⟨hasType, covers⟩ := common_of_check general plain drawn checks
  refine ⟨(exists_hasType_iff_covers general plain olderThen infers).1 hasType, covers, ?_⟩
  intro other ofInferred ofExpected
  obtain ⟨context, hasType⟩ := (exists_hasType_iff_covers general plain olderThen infers).2 ofInferred
  exact covers_of_check general plain older drawn checks hasType ofExpected

end Checking

/-- **Checking agrees with inference.** Take generalized declarations whose variables were drawn before both, a
term whose annotations are without quantifiers, and an expected type without quantifiers that was there before
checking.  Checking succeeds if and only if a type is inferred and a variant of it that shares no variable with
the expected type is unifiable with that.  Whichever variant is taken, it is unifiable then, and the answer is the
most general instance that the two types have in common, which is determined up to its variables.  Checking
against the inferred type itself succeeds and gives it back, up to its variables. -/
theorem check_infer {declarations : Dict String Ty} (general : General declarations) {term : Term}
    (plain : Plain term) {supply earlier : Nat} (older : DeclaredBefore declarations supply)
    (olderThen : DeclaredBefore declarations earlier) :
    (∀ expected : Ty, expected.Drawn supply →
      ((∃ ty, Checker.check ⟨.hindleyMilner, declarations⟩ term expected supply = .ok ty) ↔
        ∃ inferred, Checker.infer ⟨.hindleyMilner, declarations⟩ term earlier = .ok inferred ∧
          ∃ copy, inferred.ty.RenamedApart expected copy ∧ copy.Unifiable expected) ∧
      ∀ ty inferred, Checker.check ⟨.hindleyMilner, declarations⟩ term expected supply = .ok ty →
        Checker.infer ⟨.hindleyMilner, declarations⟩ term earlier = .ok inferred →
        ∀ copy, inferred.ty.RenamedApart expected copy →
          copy.Unifiable expected ∧ Ty.MostGeneralInstance copy expected ty ∧
          ∀ other, Ty.MostGeneralInstance copy expected other ↔ ty.Variant other) ∧
    ∀ inferred, Checker.infer ⟨.hindleyMilner, declarations⟩ term earlier = .ok inferred →
      (∀ id ∈ inferred.ty.vars, id < supply) →
      ∃ ty, Checker.check ⟨.hindleyMilner, declarations⟩ term inferred.ty supply = .ok ty ∧
        inferred.ty.Variant ty := by
  refine ⟨fun expected drawn => ⟨⟨?_, ?_⟩, ?_⟩, ?_⟩
  · rintro ⟨ty, checks⟩
    obtain ⟨⟨context, hasType⟩, -⟩ := common_of_check general plain drawn checks
    obtain ⟨inferred, infers⟩ := exists_infer_of_hasType general plain olderThen hasType
    have most := mostGeneralInstance_of_check general plain older drawn checks olderThen infers
    obtain ⟨copy, renamed⟩ := Ty.exists_renamedApart inferred.ty expected
    exact ⟨inferred, infers, copy, renamed, renamed.unifiable_iff.2 ⟨ty, most.ofFirst, most.ofSecond⟩⟩
  · rintro ⟨inferred, infers, copy, renamed, unifiable⟩
    obtain ⟨common, ofInferred, ofExpected⟩ := renamed.unifiable_iff.1 unifiable
    obtain ⟨context, hasType⟩ := (exists_hasType_iff_covers general plain olderThen infers).2 ofInferred
    exact exists_check_of_common general plain older drawn hasType ofExpected
  · intro ty inferred checks infers copy renamed
    have most := mostGeneralInstance_of_check general plain older drawn checks olderThen infers
    have ofCopy := most.of_variant renamed.variant
    exact ⟨renamed.unifiable_iff.2 ⟨ty, most.ofFirst, most.ofSecond⟩, ofCopy, fun other => ofCopy.iff_variant⟩
  · intro inferred infers below
    have drawn : inferred.ty.Drawn supply := ⟨quantifierFree_of_infer general plain infers, below⟩
    obtain ⟨context, hasType⟩ := hasType_of_infer general plain infers
    obtain ⟨ty, checks⟩ := exists_check_of_common general plain older drawn hasType (.refl inferred.ty)
    have most := mostGeneralInstance_of_check general plain older drawn checks olderThen infers
    exact ⟨ty, checks, (Ty.mostGeneralInstance_self inferred.ty).iff_variant.1 most⟩

/-- The abstraction of `(^ wrap (* $x))` over `$x`. -/
def wrappingUp : Term :=
  .compound "lambda" [.atom "$x", .compound "^" [.atom "wrap", .compound "*" [.atom "$x"]]]

/-- Inference leaves open what is wrapped, and the expected type what comes out. Checking settles both. -/
theorem check_infer_wrappingUp :
    General wrapping ∧ Plain wrappingUp ∧ DeclaredBefore wrapping 2 ∧ DeclaredBefore wrapping 5 ∧
    (Ty.arrow (.maybe (.var 0)) (.var 1)).Drawn 2 ∧
    ∃ inferred ty, Checker.infer ⟨.hindleyMilner, wrapping⟩ wrappingUp 5 = .ok inferred ∧
      inferred.ty = .arrow (.var 5) (.list (.var 5)) ∧
      Checker.check ⟨.hindleyMilner, wrapping⟩ wrappingUp (.arrow (.maybe (.var 0)) (.var 1)) 2 = .ok ty ∧
      ty = .arrow (.maybe (.var 0)) (.list (.maybe (.var 0))) ∧
      Ty.MostGeneralInstance inferred.ty (.arrow (.maybe (.var 0)) (.var 1)) ty := by
  have plain : Plain wrappingUp := by
    intro ascription visits declared written
    obtain ⟨subject, within⟩ := visits.exists_part
    simp [wrappingUp, Term.Part.compound_iff] at within
  have older : DeclaredBefore wrapping 2 := declaredBefore_declare (declaredBefore_bare 2) "wrap" (by decide)
  have olderThen : DeclaredBefore wrapping 5 := older.mono (by decide)
  have drawn : (Ty.arrow (.maybe (.var 0)) (.var 1)).Drawn 2 := ⟨rfl, by decide⟩
  obtain ⟨atExpected, -⟩ := check_infer general_wrapping plain older olderThen
  have apart : (Ty.arrow (.var 5) (.list (.var 5))).RenamedApart (.arrow (.maybe (.var 0)) (.var 1))
      (.arrow (.var 5) (.list (.var 5))) := ⟨Ty.variant_of_covers (.refl _) (.refl _), by decide⟩
  refine ⟨general_wrapping, plain, older, olderThen, drawn, _, _, rfl, rfl, rfl, rfl, ?_⟩
  exact ((atExpected _ drawn).2 _ _ rfl rfl _ apart).2.1

/-- **Checking may know more than inference** if a declared type has variables that were not drawn before.
Checking with the supply `3` finds that `cross` has a type from numbers to truth values.  What is inferred with
the supply `1` goes from a type to the same type, and no variant of that is unifiable with the expected type. -/
theorem check_infer_crossing :
    General crossing ∧ Plain (.atom "cross") ∧ (Ty.arrow .number .bool).Drawn 3 ∧
    ∃ inferred, Checker.infer ⟨.hindleyMilner, crossing⟩ (.atom "cross") 1 = .ok inferred ∧
      Checker.check ⟨.hindleyMilner, crossing⟩ (.atom "cross") (.arrow .number .bool) 3 =
        .ok (.arrow .number .bool) ∧
      ¬ ∃ copy, inferred.ty.RenamedApart (.arrow .number .bool) copy ∧
        copy.Unifiable (.arrow .number .bool) := by
  have drawn : (Ty.arrow .number .bool).Drawn 3 := ⟨rfl, by decide⟩
  refine ⟨general_crossing, plain_atom "cross", drawn, _, rfl, rfl, ?_⟩
  rintro ⟨copy, renamed, unifiable⟩
  obtain ⟨_, ⟨assignment, same⟩, ⟨further, rfl⟩⟩ := renamed.unifiable_iff.1 unifiable
  obtain ⟨source, target⟩ := Ty.arrow.inj same
  have equal : Ty.number = Ty.bool := source.trans target.symm
  exact absurd equal (by decide)

end Checker

end TermSpace
