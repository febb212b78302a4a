import TermSpace.Proofs.Ty.Assignment

/-!
# Stripping quantifiers

Instantiation strips the quantifiers in front of a type one after the other, and renames for each of them what
it binds below it (`Ty.instantiate_quantified`).  What is free in the instance was free before or has been drawn
for it (`Ty.drawn_of_occurs_instantiate`), and no quantifiers come in.

A renaming does not look at the names of the quantifiers that it goes under, and one of them captures what it
brings there if it binds the new name.  This happens where quantifiers bind variables that have not been drawn
yet.  If all of them were drawn before, nothing is captured, and stripping the quantifiers one by one comes to
stripping them all under one renaming (`Ty.instantiate_eq_instantiateUnder`).
-/

namespace TermSpace.Ty

set_option autoImplicit false

/-- The variables that quantifiers bind. -/
def binders : Ty → List Nat
  | .var _ => []
  | .base _ => []
  | .vector _ => []
  | .arrow source target => source.binders ++ target.binders
  | .either left right => left.binders ++ right.binders
  | .list element => element.binders
  | .maybe element => element.binders
  | .quantified id body => id :: body.binders

theorem binders_foldr (ids : List Nat) (ty : Ty) : (ids.foldr .quantified ty).binders = ids ++ ty.binders := by
  induction ids with
  | nil => rfl
  | cons id rest ih => exact congrArg (id :: ·) ih

theorem binders_of_quantifierFree {ty : Ty} (free : ty.quantifierFree) : ty.binders = [] := by
  induction ty, free using freeInduction <;> simp_all [binders]

theorem leading_of_quantifierFree {ty : Ty} (free : ty.quantifierFree) : ty.leading = 0 := by
  cases ty with
  | quantified id body => simp [quantifierFree] at free
  | _ => rfl

/-! ## Renaming -/

section Renaming

variable {names : Nat → Option Nat} {id name : Nat} {ty : Ty}

theorem binders_rename (names : Nat → Option Nat) (ty : Ty) : (ty.rename names).binders = ty.binders := by
  induction ty generalizing names <;> simp_all [rename, binders]

theorem rename_none (ty : Ty) : (ty.rename fun _ => none) = ty := by
  induction ty <;> simp_all [rename]

@[simp] theorem leading_renameOne (id name : Nat) (ty : Ty) : (ty.renameOne id name).leading = ty.leading := by
  have same (names : Nat → Option Nat) : (ty.rename names).leading = ty.leading := by
    induction ty generalizing names <;> simp_all [rename, leading]
  exact same _

theorem exists_occurs_of_occurs_rename (inside : (ty.rename names).occurs id) :
    ∃ other, ty.occurs other ∧ (names other).getD other = id := by
  induction ty generalizing names with
  | var other => exact ⟨other, by simp [occurs], by simpa [rename, occurs] using inside⟩
  | base name => simp [rename, occurs] at inside
  | vector length => simp [rename, occurs] at inside
  | arrow left right leftIH rightIH | either left right leftIH rightIH =>
    simp only [rename, occurs, Bool.or_eq_true] at inside ⊢
    rcases inside with inside | inside
    · obtain ⟨other, free, same⟩ := leftIH inside
      exact ⟨other, .inl free, same⟩
    · obtain ⟨other, free, same⟩ := rightIH inside
      exact ⟨other, .inr free, same⟩
  | list element ih | maybe element ih => exact ih inside
  | quantified bound body ih =>
    simp only [rename, occurs, Bool.and_eq_true, decide_eq_true_eq] at inside ⊢
    obtain ⟨other, free, same⟩ := ih inside.2
    by_cases here : other = bound
    · subst here
      rw [if_pos rfl, Option.getD_none] at same
      exact absurd same inside.1
    · rw [if_neg here] at same
      exact ⟨other, ⟨Ne.symm here, free⟩, same⟩

/-- Below a quantifier that is stripped, its variable has given way to the one drawn for it. -/
theorem occurs_of_occurs_renameOne {bound : Nat} (inside : (ty.renameOne bound name).occurs id) :
    id = name ∨ (quantified bound ty).occurs id := by
  obtain ⟨other, free, same⟩ := exists_occurs_of_occurs_rename inside
  by_cases here : other = bound
  · rw [if_pos here] at same
    exact .inl same.symm
  · rw [if_neg here] at same
    obtain rfl : other = id := same
    exact .inr (by simp [occurs, free, Ne.symm here])

end Renaming

/-! ## One quantifier at a time -/

/-- **The outermost quantifier is stripped first,** and then the rest is. -/
theorem instantiate_quantified (id : Nat) (body : Ty) (supply : Nat) :
    (quantified id body).instantiate supply = (body.renameOne id supply).instantiate (supply + 1) := by
  rw [instantiate, instantiate, leading, strip, leading_renameOne]

theorem instantiate_of_leading_eq_zero {ty : Ty} (bare : ty.leading = 0) (supply : Nat) :
    ty.instantiate supply = (ty, supply) := by
  rw [instantiate, bare]
  cases ty <;> rfl

/-- **Induction along the quantifiers in front.** -/
@[elab_as_elim]
theorem instantiateInduction {motive : Ty → Nat → Prop}
    (quantified : ∀ id body supply, motive (body.renameOne id supply) (supply + 1) →
      motive (.quantified id body) supply)
    (bare : ∀ ty supply, ty.leading = 0 → motive ty supply) (ty : Ty) (supply : Nat) : motive ty supply := by
  induction count : ty.leading generalizing ty supply with
  | zero => exact bare ty supply count
  | succ rest ih =>
    cases ty with
    | quantified id body =>
      refine quantified id body supply (ih _ _ ?_)
      rw [leading_renameOne]
      exact Nat.succ.inj count
    | _ => simp [leading] at count

theorem le_instantiate (ty : Ty) (supply : Nat) : supply ≤ (ty.instantiate supply).2 := by
  induction ty, supply using instantiateInduction with
  | quantified id body supply ih =>
    rw [instantiate_quantified]
    exact Nat.le_of_succ_le ih
  | bare ty supply bare =>
    have kept := congrArg Prod.snd (instantiate_of_leading_eq_zero bare supply)
    exact Nat.le_of_eq kept.symm

/-- A quantifier takes something from the supply. -/
theorem lt_instantiate_quantified (id : Nat) (body : Ty) (supply : Nat) :
    supply < ((quantified id body).instantiate supply).2 := by
  rw [instantiate_quantified]
  exact le_instantiate _ _

theorem mem_binders_of_mem_instantiate {ty : Ty} {supply id : Nat}
    (member : id ∈ (ty.instantiate supply).1.binders) : id ∈ ty.binders := by
  induction ty, supply using instantiateInduction with
  | quantified bound body supply ih =>
    rw [instantiate_quantified] at member
    have inside := ih member
    rw [renameOne, binders_rename] at inside
    exact List.mem_cons_of_mem _ inside
  | bare ty supply bare => rwa [instantiate_of_leading_eq_zero bare] at member

/-- **What is free in an instance** was free before or has been drawn for it. -/
theorem drawn_of_occurs_instantiate {ty : Ty} {supply id : Nat} (inside : (ty.instantiate supply).1.occurs id) :
    ty.occurs id ∨ supply ≤ id ∧ id < (ty.instantiate supply).2 := by
  induction ty, supply using instantiateInduction with
  | quantified bound body supply ih =>
    rw [instantiate_quantified] at inside ⊢
    rcases ih inside with free | drawn
    · refine (occurs_of_occurs_renameOne free).symm.imp_right ?_
      rintro rfl
      exact ⟨Nat.le_refl _, le_instantiate _ _⟩
    · exact .inr ⟨Nat.le_of_succ_le drawn.1, drawn.2⟩
  | bare ty supply bare =>
    rw [instantiate_of_leading_eq_zero bare] at inside
    exact .inl inside

/-! ## All quantifiers at once -/

/-- Strip the quantifiers in front under one renaming. -/
def instantiateUnder (names : Nat → Option Nat) (supply : Nat) : Ty → Ty × Nat
  | .quantified id body =>
    body.instantiateUnder (fun other => if other = id then some supply else names other) (supply + 1)
  | ty => (ty.rename names, supply)

theorem instantiateUnder_of_leading_eq_zero {names : Nat → Option Nat} {supply : Nat} {ty : Ty}
    (bare : ty.leading = 0) : ty.instantiateUnder names supply = (ty.rename names, supply) := by
  cases ty with
  | quantified id body => simp [leading] at bare
  | _ => rfl

/-- The names that variables have after two renamings. -/
def renamedTwice (first second : Nat → Option Nat) (id : Nat) : Option Nat :=
  match first id with
  | some name => some ((second name).getD name)
  | none => second id

/-- Under a quantifier neither renaming touches its variable, and the first one leads to no variable that is
bound. -/
theorem renamedTwice_under {first second : Nat → Option Nat} {id : Nat} {value : Option Nat}
    (apart : ∀ other name, first other = some name → name ≠ id) :
    renamedTwice (fun other => if other = id then none else first other)
        (fun other => if other = id then value else second other) =
      fun other => if other = id then value else renamedTwice first second other := by
  funext other
  by_cases here : other = id
  · simp [renamedTwice, here]
  · cases found : first other with
    | none => simp [renamedTwice, here, found]
    | some name => simp [renamedTwice, here, found, apart other name found]

theorem rename_rename {first second : Nat → Option Nat} {ty : Ty}
    (apart : ∀ id name, first id = some name → name ∉ ty.binders) :
    (ty.rename first).rename second = ty.rename (renamedTwice first second) := by
  induction ty generalizing first second with
  | var id =>
    cases found : first id with
    | none => simp [rename, renamedTwice, found]
    | some name => simp [rename, renamedTwice, found]
  | base name => rfl
  | vector length => rfl
  | arrow left right leftIH rightIH | either left right leftIH rightIH =>
    simp only [binders, List.mem_append, not_or] at apart
    simp only [rename, leftIH fun id name found => (apart id name found).1,
      rightIH fun id name found => (apart id name found).2]
  | list element ih | maybe element ih => simp only [rename, ih apart]
  | quantified id body ih =>
    simp only [binders, List.mem_cons, not_or] at apart
    simp only [rename]
    rw [ih fun other name found => (apart other name (Option.ite_none_left_eq_some.1 found).2).2,
      renamedTwice_under fun other name found => (apart other name found).1]

theorem instantiateUnder_rename {first second : Nat → Option Nat} {supply : Nat} {ty : Ty}
    (apart : ∀ id name, first id = some name → name ∉ ty.binders) :
    (ty.rename first).instantiateUnder second supply =
      ty.instantiateUnder (renamedTwice first second) supply := by
  induction ty generalizing first second supply with
  | quantified id body ih =>
    simp only [binders, List.mem_cons, not_or] at apart
    simp only [rename, instantiateUnder]
    rw [ih fun other name found => (apart other name (Option.ite_none_left_eq_some.1 found).2).2,
      renamedTwice_under fun other name found => (apart other name found).1]
  | _ => exact congrArg (·, supply) (rename_rename apart)

/-- **Nothing is captured if all quantifiers are older than the supply,** and the quantifiers may be stripped
under one renaming. -/
theorem instantiate_eq_instantiateUnder {ty : Ty} {supply : Nat} (below : ∀ id ∈ ty.binders, id < supply) :
    ty.instantiate supply = ty.instantiateUnder (fun _ => none) supply := by
  induction ty, supply using instantiateInduction with
  | quantified id body supply ih =>
    have older : ∀ other ∈ body.binders, other < supply :=
      fun other member => below other (List.mem_cons_of_mem _ member)
    have apart : ∀ other name, (if other = id then some supply else none) = some name →
        name ∉ body.binders := by
      intro other name found member
      obtain ⟨-, same⟩ := Option.ite_none_right_eq_some.1 found
      have := older name member
      have := Option.some.inj same
      omega
    have once : renamedTwice (fun other => if other = id then some supply else none) (fun _ => none) =
        fun other => if other = id then some supply else none := by
      funext other
      by_cases here : other = id
      · simp [renamedTwice, here]
      · simp [renamedTwice, here]
    rw [instantiate_quantified, ih fun other member => ?_, renameOne, instantiateUnder_rename apart, once,
      instantiateUnder]
    rw [renameOne, binders_rename] at member
    exact Nat.lt_succ_of_lt (older other member)
  | bare ty supply bare =>
    rw [instantiate_of_leading_eq_zero bare, instantiateUnder_of_leading_eq_zero bare, rename_none]

-- the variable drawn for `2` is `1`, and the inner quantifier captures it
example :
    (quantified 2 (.quantified 1 (.arrow (.var 2) (.var 1)))).instantiate 1 =
        (.arrow (.var 2) (.var 2), 3) ∧
      (quantified 2 (.quantified 1 (.arrow (.var 2) (.var 1)))).instantiateUnder (fun _ => none) 1 =
        (.arrow (.var 1) (.var 2), 3) := ⟨rfl, rfl⟩

end TermSpace.Ty
