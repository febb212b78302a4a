import Mathlib.Data.List.GetD
import TermSpace.Proofs.List.FirstOccurrences
import TermSpace.Proofs.Ty.Instantiation

/-!
# Instances of generalized types

A type without quantifiers is generalized by quantifying over all of its variables, and a use of the
generalized type strips the quantifiers and draws a fresh variable for each.  What it gets is a copy of the type
with variables that were drawn for it (`exists_copies_instantiate_generalize`), and so an instance of it.

Any instance of the type is one of the copy, whatever the variables drawn before stand for, if the variables of
the type were drawn before as well (`HasInstance.of_fresh`).  If they were not, the copy may have one variable
for two of the type.
-/

namespace TermSpace.Ty

set_option autoImplicit false

/-! ## Types drawn from a supply -/

/-- A type without quantifiers, all variables of which were drawn before a supply. -/
structure Drawn (supply : Nat) (ty : Ty) : Prop where
  free : ty.quantifierFree
  below : ∀ id ∈ ty.vars, id < supply

namespace Drawn

theorem mono {earlier later : Nat} {ty : Ty} (drawn : ty.Drawn earlier) (order : earlier ≤ later) :
    ty.Drawn later :=
  ⟨drawn.free, fun id member => Nat.lt_of_lt_of_le (drawn.below id member) order⟩

theorem var {supply id : Nat} (before : id < supply) : (Ty.var id).Drawn supply := by
  refine ⟨rfl, fun other member => ?_⟩
  simp only [vars, List.mem_singleton] at member
  exact member ▸ before

theorem base (supply : Nat) (name : String) : (Ty.base name).Drawn supply :=
  ⟨rfl, fun id member => by simp [vars] at member⟩

theorem arrow {supply : Nat} {source target : Ty} (atSource : source.Drawn supply)
    (atTarget : target.Drawn supply) : (Ty.arrow source target).Drawn supply := by
  constructor
  · exact quantifierFree_arrow.2 ⟨atSource.free, atTarget.free⟩
  · intro id member
    rcases List.mem_append.1 member with inside | inside
    · exact atSource.below id inside
    · exact atTarget.below id inside

/-- Only the variables drawn so far matter. -/
theorem under_eq {supply : Nat} {first second : Nat → Ty} {ty : Ty} (drawn : ty.Drawn supply)
    (agree : ∀ id < supply, first id = second id) : ty.under first = ty.under second :=
  under_congr fun id member => agree id (drawn.below id member)

end Drawn

/-! ## Assignments from a supply on -/

/-- One assignment below a supply, and another one from the supply on. -/
def splice (supply : Nat) (first rest : Nat → Ty) (id : Nat) : Ty :=
  if id < supply then first id else rest (id - supply)

theorem splice_agrees (supply : Nat) (first rest : Nat → Ty) :
    ∀ id < supply, splice supply first rest id = first id := fun _ before => if_pos before

theorem splice_add (supply offset : Nat) (first rest : Nat → Ty) :
    splice supply first rest (supply + offset) = rest offset := by
  have after : ¬ supply + offset < supply := by omega
  rw [splice, if_neg after, Nat.add_sub_cancel_left]

/-- The next variable to be drawn stands for a given type. -/
theorem splice_self (supply : Nat) (first : Nat → Ty) (ty : Ty) :
    splice supply first (fun _ => ty) supply = ty :=
  splice_add supply 0 first fun _ => ty

/-- A copy of a type with variables from a supply on takes its types from the second assignment. -/
theorem under_splice {supply : Nat} (first rest : Nat → Ty) (offset : Nat → Nat) (ty : Ty) :
    (ty.under fun id => .var (supply + offset id)).under (splice supply first rest) =
      ty.under fun id => rest (offset id) := by
  rw [under_under]
  refine under_congr fun id _ => ?_
  rw [under_var, splice_add]

theorem drawn_under_var {supply : Nat} {images : Nat → Nat} {ty : Ty} (free : ty.quantifierFree)
    (before : ∀ id ∈ ty.vars, images id < supply) : (ty.under fun id => .var (images id)).Drawn supply := by
  refine ⟨quantifierFree_under free fun id _ => rfl, fun id member => ?_⟩
  obtain ⟨other, inside, same⟩ := mem_vars_under.1 member
  simp only [vars, List.mem_singleton] at same
  exact same ▸ before other inside

theorem drawn_copy {supply size : Nat} {offset : Nat → Nat} {ty : Ty} (free : ty.quantifierFree)
    (within : ∀ id ∈ ty.vars, offset id < size) :
    (ty.under fun id => .var (supply + offset id)).Drawn (supply + size) :=
  drawn_under_var free fun id member => Nat.add_lt_add_left (within id member) supply

/-! ## Generalization -/

theorem freeOccurrences_eq_vars {ty : Ty} (free : ty.quantifierFree) :
    ty.freeOccurrences [] = ty.vars := by
  induction ty, free using freeInduction with
  | var id => simp [freeOccurrences, vars]
  | base name => rfl
  | vector length => rfl
  | arrow left right _ _ leftIH rightIH | either left right _ _ leftIH rightIH =>
    rw [freeOccurrences, leftIH, rightIH]
    rfl
  | list element _ ih | maybe element _ ih => exact ih

theorem mem_freeVars {ty : Ty} (free : ty.quantifierFree) {id : Nat} :
    id ∈ ty.freeVars ↔ id ∈ ty.vars := by
  rw [freeVars, List.mem_eraseDups, freeOccurrences_eq_vars free]

theorem nodup_freeVars (ty : Ty) : ty.freeVars.Nodup := nodup_eraseDups _

theorem rename_eq_under {names : Nat → Option Nat} {ty : Ty} (free : ty.quantifierFree) :
    ty.rename names = ty.under fun id => .var ((names id).getD id) := by
  induction ty, free using freeInduction with
  | var id => rfl
  | base name => rfl
  | vector length => rfl
  | arrow source target _ _ sourceIH targetIH => rw [rename, sourceIH, targetIH, under_arrow]
  | either left right _ _ leftIH rightIH => rw [rename, leftIH, rightIH, under_either]
  | list element _ ih => rw [rename, ih, under_list]
  | maybe element _ ih => rw [rename, ih, under_maybe]

theorem quantifierFree_rename {ty : Ty} (free : ty.quantifierFree) (names : Nat → Option Nat) :
    (ty.rename names).quantifierFree := by
  rw [rename_eq_under free]
  exact quantifierFree_under free fun id _ => rfl

/-- Quantifiers stop the renaming of what they bind. -/
theorem rename_foldr (ids : List Nat) (names : Nat → Option Nat) (body : Ty) :
    (ids.foldr .quantified body).rename names =
      ids.foldr .quantified (body.rename fun id => if id ∈ ids then none else names id) := by
  induction ids generalizing names with
  | nil => simp
  | cons first rest ih =>
    rw [List.foldr_cons, rename, ih, List.foldr_cons]
    congr 3
    funext id
    by_cases here : id = first
    · simp [here]
    · simp [here]

/-- What variables have become after quantifiers over some of them were stripped.  If the quantified ones are
different and older than the supply, they have become different ones, in order.  If not, one of them may have
become the same as a later one. -/
structure Copies (ids : List Nat) (supply : Nat) (images : Nat → Nat) : Prop where
  others : ∀ id, id ∉ ids → images id = id
  before : ∀ id ∈ ids, images id < supply + ids.length
  inOrder : ids.Nodup → (∀ id ∈ ids, id < supply) → ∀ id ∈ ids, images id = supply + ids.idxOf id

/-- The first quantifier is stripped before the others, and these see the variable that was drawn for it. -/
theorem Copies.cons {first supply : Nat} {rest : List Nat} {images : Nat → Nat}
    (copies : Copies rest (supply + 1) images) :
    Copies (first :: rest) supply fun id =>
      images (if id ∈ rest then id else if id = first then supply else id) := by
  constructor
  · intro id outside
    simp only [List.mem_cons, not_or] at outside
    rw [if_neg outside.2, if_neg outside.1, copies.others id outside.2]
  · intro id member
    have later : ∀ other ∈ rest, images other < supply + (first :: rest).length := by
      intro other inside
      have := copies.before other inside
      rw [List.length_cons]
      omega
    by_cases inside : id ∈ rest
    · rw [if_pos inside]
      exact later id inside
    · have here : id = first := (List.mem_cons.1 member).resolve_right inside
      rw [if_neg inside, if_pos here]
      -- a quantifier that comes later may bind the variable just drawn
      by_cases captured : supply ∈ rest
      · exact later supply captured
      · rw [copies.others supply captured, List.length_cons]
        omega
  · intro distinct older id member
    obtain ⟨new, distinctRest⟩ := List.nodup_cons.1 distinct
    rw [List.forall_mem_cons] at older
    by_cases here : id = first
    · subst here
      have free : supply ∉ rest := fun inside => Nat.lt_irrefl _ (older.2 supply inside)
      rw [if_neg new, if_pos rfl, copies.others supply free, List.idxOf_cons_self, Nat.add_zero]
    · have inside : id ∈ rest := (List.mem_cons.1 member).resolve_left here
      have inOrder := copies.inOrder distinctRest (fun other among => Nat.lt_succ_of_lt (older.2 other among))
      rw [if_pos inside, inOrder id inside, List.idxOf_cons_ne rest (Ne.symm here)]
      omega

/-- Stripping quantifiers one after the other copies what is below them. -/
theorem exists_copies_instantiate_foldr (ids : List Nat) {body : Ty} (free : body.quantifierFree)
    (supply : Nat) :
    ∃ images, Copies ids supply images ∧
      (ids.foldr .quantified body).instantiate supply =
        (body.under fun id => .var (images id), supply + ids.length) := by
  induction ids generalizing body supply with
  | nil =>
    refine ⟨id, ⟨fun _ _ => rfl, by simp, by simp⟩, ?_⟩
    rw [List.foldr_nil, instantiate_of_leading_eq_zero (leading_of_quantifierFree free)]
    exact Prod.ext (under_self body).symm rfl
  | cons first rest ih =>
    have freeBelow := quantifierFree_rename free fun id =>
      if id ∈ rest then none else if id = first then some supply else none
    obtain ⟨images, copies, same⟩ := ih freeBelow (supply + 1)
    refine ⟨_, copies.cons, ?_⟩
    rw [List.foldr_cons, instantiate_quantified, renameOne, rename_foldr, same, rename_eq_under free,
      under_under, List.length_cons, Nat.add_assoc, Nat.add_comm 1]
    congr 1
    refine under_congr fun id _ => ?_
    rw [under_var]
    congr 2
    split
    · rfl
    split
    · rfl
    · rfl

/-- **A use of a generalized type gets a copy** with variables that were drawn for it. -/
theorem exists_copies_instantiate_generalize {body : Ty} (free : body.quantifierFree) (supply : Nat) :
    ∃ images, Copies body.freeVars supply images ∧
      body.generalize.instantiate supply =
        (body.under fun id => .var (images id), supply + body.freeVars.length) :=
  exists_copies_instantiate_foldr body.freeVars free supply

/-! ## Instances -/

/-- A type is a generalized one with types in place of the quantified variables. -/
def HasInstance (scheme ty : Ty) : Prop :=
  ∃ (body : Ty) (assignment : Nat → Ty),
    body.quantifierFree ∧ scheme = body.generalize ∧ ty = body.under assignment

/-- A type is the generalization of one without quantifiers. -/
def IsGeneral (scheme : Ty) : Prop := ∃ body : Ty, body.quantifierFree ∧ scheme = body.generalize

section Fresh

variable {scheme : Ty}

theorem IsGeneral.drawn (general : scheme.IsGeneral) (supply : Nat) :
    (scheme.instantiate supply).1.Drawn (scheme.instantiate supply).2 := by
  obtain ⟨body, free, rfl⟩ := general
  obtain ⟨images, copies, same⟩ := exists_copies_instantiate_generalize free supply
  rw [same]
  exact drawn_under_var free fun id member => copies.before id ((mem_freeVars free).2 member)

/-- What a use gets is an instance, also if variables have been captured. -/
theorem IsGeneral.hasInstance (general : scheme.IsGeneral) (supply : Nat) (assignment : Nat → Ty) :
    scheme.HasInstance ((scheme.instantiate supply).1.under assignment) := by
  obtain ⟨body, free, rfl⟩ := general
  obtain ⟨images, -, same⟩ := exists_copies_instantiate_generalize free supply
  rw [same, under_under]
  exact ⟨body, _, free, rfl, rfl⟩

/-- **Every instance is one of a fresh copy,** whatever the variables drawn before stand for, if the quantified
variables are among these. -/
theorem HasInstance.of_fresh {ty : Ty} (isInstance : scheme.HasInstance ty) {supply : Nat}
    (below : ∀ id ∈ scheme.binders, id < supply) :
    ∃ rest, ∀ first, ty = (scheme.instantiate supply).1.under (splice supply first rest) := by
  obtain ⟨body, assignment, free, rfl, rfl⟩ := isInstance
  obtain ⟨images, copies, same⟩ := exists_copies_instantiate_generalize free supply
  have older : ∀ id ∈ body.freeVars, id < supply := by
    intro id member
    refine below id ?_
    rw [generalize, binders_foldr]
    exact List.mem_append_left _ member
  refine ⟨fun offset => assignment (body.freeVars.getD offset 0), fun first => ?_⟩
  rw [same, under_under]
  refine under_congr fun id member => ?_
  have quantified := (mem_freeVars free).2 member
  have within := List.idxOf_lt_length_of_mem quantified
  rw [under_var, copies.inOrder body.nodup_freeVars older id quantified, splice_add,
    List.getD_eq_getElem _ _ within, List.getElem_idxOf]

end Fresh

end TermSpace.Ty
