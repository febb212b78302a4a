import TermSpace.Proofs.Ty.Relabeling

/-!
# Generalization and instances

A generalized type has no free variables, and an instance of it has only such as have just been drawn: one for
each variable that is free once all leading quantifiers are gone, those that generalization has put and those
that were there before (`Ty.instantiate_generalized`).  The quantifiers further inside stay, and so does
what they bind, even where they bind a variable again that is free outside.

What the names of the variables come to is read off from stripping all leading quantifiers under one renaming
(`Ty.Naming.instantiateUnder`), as may be done where the variables of the type were drawn before.  That the free
variables have just been drawn holds of every type.
-/

namespace TermSpace.Ty

set_option autoImplicit false

/-! ## Generalized types -/

/-- What a type is a statement about, below its leading quantifiers. -/
def core : Ty → Ty
  | .quantified _ body => body.core
  | ty => ty

theorem mem_binders_of_mem_core {id : Nat} {ty : Ty} (member : id ∈ ty.core.binders) : id ∈ ty.binders := by
  fun_induction core ty with
  | case1 bound body ih => exact List.mem_cons_of_mem _ (ih member)
  | case2 ty _ => exact member

theorem core_foldr (ids : List Nat) (ty : Ty) : (ids.foldr .quantified ty).core = ty.core := by
  induction ids with
  | nil => rfl
  | cons id rest ih => exact ih

theorem occurs_foldr {ids : List Nat} {ty : Ty} {id : Nat} :
    (ids.foldr .quantified ty).occurs id ↔ id ∉ ids ∧ ty.occurs id := by
  induction ids with
  | nil => simp
  | cons first rest ih =>
    simp only [List.foldr_cons, occurs, Bool.and_eq_true, decide_eq_true_eq, ih, List.mem_cons, not_or,
      and_assoc, ne_comm]

theorem core_generalize (ty : Ty) : ty.generalize.core = ty.core := core_foldr ty.freeVars ty

theorem not_occurs_generalize (ty : Ty) (id : Nat) : ¬ ty.generalize.occurs id := by
  rw [generalize, occurs_foldr, mem_freeVars_iff_occurs]
  exact fun both => both.1 both.2

/-- **A generalized type is closed.** -/
theorem freeVars_generalize (ty : Ty) : ty.generalize.freeVars = [] := by
  refine List.eq_nil_iff_forall_not_mem.2 fun id member => ?_
  exact not_occurs_generalize ty id (mem_freeVars_iff_occurs.1 member)

/-! ## Drawing names -/

/-- Different variables have different new names, all of them drawn between a floor and a supply. -/
structure Naming (floor supply : Nat) (names : Nat → Option Nat) : Prop where
  drawn : ∀ id name, names id = some name → floor ≤ name ∧ name < supply
  distinct : ∀ id other name, names id = some name → names other = some name → id = other

theorem naming_none (supply : Nat) : Naming supply supply fun _ => none :=
  ⟨fun id name found => by simp at found, fun id other name found => by simp at found⟩

/-- The next name goes to a variable, whether it had one before or not. -/
theorem Naming.draw {floor supply : Nat} {names : Nat → Option Nat} (naming : Naming floor supply names)
    (order : floor ≤ supply) (id : Nat) :
    Naming floor (supply + 1) fun other => if other = id then some supply else names other := by
  constructor
  · intro other name found
    split at found
    · obtain rfl := Option.some.inj found
      omega
    · have := naming.drawn other name found
      omega
  · intro first second name atFirst atSecond
    split at atFirst <;> split at atSecond
    · next here there => rw [here, there]
    · have := naming.drawn second name atSecond
      have := Option.some.inj atFirst
      omega
    · have := naming.drawn first name atFirst
      have := Option.some.inj atSecond
      omega
    · exact naming.distinct first second name atFirst atSecond

/-- **Stripping the leading quantifiers names what they bind.** If all free variables have names, so have those
that become free. -/
theorem Naming.instantiateUnder {floor supply : Nat} {names : Nat → Option Nat} {ty : Ty}
    (naming : Naming floor supply names) (order : floor ≤ supply)
    (named : ∀ id, ty.occurs id → (names id).isSome) :
    ∃ final, Naming floor (ty.instantiateUnder names supply).2 final ∧
      (ty.instantiateUnder names supply).1 = ty.core.rename final ∧
      ∀ id, ty.core.occurs id → (final id).isSome := by
  induction ty generalizing names supply with
  | quantified bound body ih =>
    refine ih (naming.draw order bound) (by omega) fun id free => ?_
    by_cases here : id = bound
    · simp [here]
    · simpa [here] using named id (by simp [occurs, free, Ne.symm here])
  | _ => exact ⟨names, naming, rfl, named⟩

/-- Generalization quantifies over variables of the type. -/
theorem Below.generalize {ty : Ty} {supply : Nat} (below : ty.Below supply) :
    ∀ id ∈ ty.generalize.binders, id < supply := by
  intro id member
  rw [Ty.generalize, binders_foldr, List.mem_append, mem_freeVars_iff_occurs] at member
  exact member.elim (fun free => below.vars id (mem_vars_of_occurs free)) (below.binders id)

/-- An instance of a generalized type gives every variable that becomes free a name. -/
theorem exists_naming_instantiate_generalize {ty : Ty} {supply : Nat} (below : ty.Below supply) :
    ∃ names, Naming supply (ty.generalize.instantiate supply).2 names ∧
      (ty.generalize.instantiate supply).1 = ty.core.rename names ∧
      ∀ id, ty.core.occurs id → (names id).isSome := by
  rw [← core_generalize ty, instantiate_eq_instantiateUnder below.generalize]
  exact (naming_none supply).instantiateUnder (Nat.le_refl supply)
    fun id free => absurd free (not_occurs_generalize ty id)

/-- What is free in an instance of a generalized type has been drawn for it. -/
theorem drawn_of_mem_freeVars_instantiate {ty : Ty} {supply id : Nat}
    (member : id ∈ (ty.generalize.instantiate supply).1.freeVars) :
    supply ≤ id ∧ id < (ty.generalize.instantiate supply).2 :=
  (drawn_of_occurs_instantiate (mem_freeVars_iff_occurs.1 member)).resolve_left (not_occurs_generalize ty id)

/-! ## Renaming without capture -/

/-- **Renaming reaches exactly the free occurrences,** one after the other, if no quantifier is over a
new name. -/
theorem freeOccurrences_rename {names : Nat → Option Nat} {bound : List Nat} {ty : Ty}
    (outside : ∀ id ∈ bound, names id = none)
    (apart : ∀ id name, names id = some name → name ∉ bound ∧ name ∉ ty.binders) :
    (ty.rename names).freeOccurrences bound =
      (ty.freeOccurrences bound).map fun id => (names id).getD id := by
  induction ty generalizing names bound with
  | var id =>
    by_cases inside : id ∈ bound
    · simp [rename, freeOccurrences, outside id inside, inside]
    · cases found : names id with
      | none => simp [rename, freeOccurrences, found, inside]
      | some name => simp [rename, freeOccurrences, found, inside, (apart id name found).1]
  | base name => rfl
  | vector length => rfl
  | arrow left right leftIH rightIH | either left right leftIH rightIH =>
    simp only [binders, List.mem_append, not_or] at apart
    rw [rename, freeOccurrences, freeOccurrences, List.map_append,
      leftIH outside fun id name found => ⟨(apart id name found).1, (apart id name found).2.1⟩,
      rightIH outside fun id name found => ⟨(apart id name found).1, (apart id name found).2.2⟩]
  | list element ih | maybe element ih => exact ih outside apart
  | quantified id body ih =>
    simp only [binders, List.mem_cons, not_or] at apart
    rw [rename, freeOccurrences, freeOccurrences, ih]
    · refine List.map_congr_left fun other member => ?_
      have different : other ≠ id := fun same => (mem_freeOccurrences.1 member).2 (same ▸ List.mem_cons_self)
      rw [if_neg different]
    · intro other member
      rcases List.mem_cons.1 member with same | inside
      · exact if_pos same
      · rw [outside other inside, ite_self]
    · intro other name found
      obtain ⟨notBound, notHere, notInside⟩ := apart other name (Option.ite_none_left_eq_some.1 found).2
      exact ⟨fun inside => (List.mem_cons.1 inside).elim notHere notBound, notInside⟩

/-! ## Instances of generalized types -/

/-- **Generalized types are closed, and their instances fresh.** Take a type all variables of which were drawn
before a supply.  Its generalization has no free variables.  An instance of that is what is left of the type
without its leading quantifiers, with a variable drawn from the supply for each free one: for different ones
different variables, at exactly the free occurrences, and with the inner quantifiers as they were.  No later
instance of a generalized type, this one or another, has a free variable in common with it. -/
theorem instantiate_generalized {ty : Ty} {supply : Nat} (below : ty.Below supply) :
    ty.generalize.freeVars = [] ∧
    (∃ names : Nat → Nat,
      (ty.generalize.instantiate supply).1 = ty.core.replaceFree (fun id => .var (names id)) ∧
      (∀ id ∈ ty.core.freeVars, supply ≤ names id) ∧
      (∀ id ∈ ty.core.freeVars, ∀ other ∈ ty.core.freeVars, names id = names other → id = other) ∧
      (ty.generalize.instantiate supply).1.freeOccurrences [] = (ty.core.freeOccurrences []).map names ∧
      (ty.generalize.instantiate supply).1.binders = ty.core.binders) ∧
    ∀ later, (ty.generalize.instantiate supply).2 ≤ later → ∀ other : Ty,
      ∀ id ∈ (ty.generalize.instantiate supply).1.freeVars,
        id ∉ (other.generalize.instantiate later).1.freeVars := by
  refine ⟨freeVars_generalize ty, ?_, fun later order other id member again => ?_⟩
  · obtain ⟨names, naming, same, named⟩ := exists_naming_instantiate_generalize below
    have found : ∀ id ∈ ty.core.freeVars, names id = some ((names id).getD id) := by
      intro id member
      obtain ⟨name, isName⟩ := Option.isSome_iff_exists.1 (named id (mem_freeVars_iff_occurs.1 member))
      rw [isName, Option.getD_some]
    refine ⟨fun id => (names id).getD id, ?_, ?_, ?_, ?_, ?_⟩
    · rw [same, rename_eq_replaceFree]
    · intro id member
      exact (naming.drawn id _ (found id member)).1
    · intro id member other member' equal
      have same' : (names id).getD id = (names other).getD other := equal
      exact naming.distinct id other _ (found id member) (same' ▸ found other member')
    · rw [same]
      refine freeOccurrences_rename (by simp) fun id name isName => ⟨by simp, fun member => ?_⟩
      have := (naming.drawn id name isName).1
      have := below.binders name (mem_binders_of_mem_core member)
      omega
    · rw [same, binders_rename]
  · have := (drawn_of_mem_freeVars_instantiate member).2
    have := (drawn_of_mem_freeVars_instantiate again).1
    omega

/-- A type whose leading quantifiers bind a variable twice, and whose free variable is bound again inside. -/
def shadowing : Ty :=
  .quantified 3 (.quantified 3 (.arrow (.var 3) (.arrow (.var 1) (.quantified 1 (.arrow (.var 1) (.var 3))))))

/-- **Both binders of a variable stand for the inner one,** and the quantifier inside keeps its own. -/
theorem instantiate_generalized_shadowing :
    shadowing.Below 4 ∧
    shadowing.generalize.instantiate 4 =
      (.arrow (.var 6) (.arrow (.var 4) (.quantified 1 (.arrow (.var 1) (.var 6)))), 7) ∧
    shadowing.generalize.freeVars = [] ∧
    ∃ names : Nat → Nat,
      (shadowing.generalize.instantiate 4).1.freeOccurrences [] = [3, 1, 3].map names := by
  have below : shadowing.Below 4 := ⟨by decide, by decide⟩
  obtain ⟨closed, ⟨names, -, -, -, occurrences, -⟩, -⟩ := instantiate_generalized below
  exact ⟨below, rfl, closed, names, occurrences⟩

end TermSpace.Ty
