import TermSpace.Proofs.Ty.Expressions
import TermSpace.Proofs.Ty.Instances

/-!
# Types that annotations write

Reading a type expression draws a fresh variable for each variable name in it.  Which variables these are
depends on the supply, and on nothing else: read from a later supply, an expression writes the same type
with all variables moved up (`ofTerm_eq_shift`).  So an annotation writes one type up to its variables, the
one read from the supply `0`, and each use of it is a fresh copy of this type.
-/

namespace TermSpace

set_option autoImplicit false

namespace Ty

/-- A type with all of its variables moved up. -/
def shift (offset : Nat) : Ty → Ty
  | .var id => .var (offset + id)
  | .base name => .base name
  | .vector length => .vector length
  | .arrow source target => .arrow (source.shift offset) (target.shift offset)
  | .either left right => .either (left.shift offset) (right.shift offset)
  | .list element => .list (element.shift offset)
  | .maybe element => .maybe (element.shift offset)
  | .quantified id body => .quantified (offset + id) (body.shift offset)

theorem shift_eq_under {offset : Nat} {ty : Ty} (free : ty.quantifierFree) :
    ty.shift offset = ty.under fun id => .var (offset + id) := by
  induction ty, free using freeInduction with
  | var id => rfl
  | base name => rfl
  | vector length => rfl
  | arrow source target _ _ sourceIH targetIH => rw [shift, sourceIH, targetIH, under_arrow]
  | either left right _ _ leftIH rightIH => rw [shift, leftIH, rightIH, under_either]
  | list element _ ih => rw [shift, ih, under_list]
  | maybe element _ ih => rw [shift, ih, under_maybe]

namespace Scope

/-- A scope with all of its variables moved up. -/
def shift (offset : Nat) (scope : Scope) : Scope :=
  ⟨scope.names.mapValues (offset + ·), offset + scope.supply⟩

variable (offset : Nat) (scope outer : Scope) (name : String)

theorem variable_shift :
    (scope.shift offset).variable name =
      (offset + (scope.variable name).1, (scope.variable name).2.shift offset) := by
  unfold Scope.variable shift
  rw [Dict.get?_mapValues]
  cases scope.names.get? name with
  | none =>
    simp only [Option.map_none, Dict.mapValues_insert]
    rfl
  | some id => rfl

theorem bind_shift :
    (scope.shift offset).bind name =
      (offset + (scope.bind name).1, (scope.bind name).2.shift offset) := by
  unfold Scope.bind shift
  simp only [Dict.mapValues_insert]
  rfl

theorem restore_supply : (scope.restore outer name).supply = scope.supply := by
  unfold Scope.restore
  split <;> rfl

theorem restore_shift :
    (scope.shift offset).restore (outer.shift offset) name =
      (scope.restore outer name).shift offset := by
  unfold Scope.restore shift
  rw [Dict.get?_mapValues]
  cases outer.names.get? name with
  | none => simp only [Option.map_none, Dict.mapValues_erase]
  | some id => simp only [Option.map_some, Dict.mapValues_insert]

end Scope

/-! ## Reading from a later supply -/

/-- A type and a scope with all of their variables moved up. -/
def shiftRead (offset : Nat) (result : Ty × Scope) : Ty × Scope :=
  (result.1.shift offset, result.2.shift offset)

theorem Expression.read_shift (offset : Nat) (expression : Expression) (scope : Scope) :
    expression.read (scope.shift offset) = shiftRead offset (expression.read scope) := by
  induction expression generalizing scope with
  | named name =>
    simp only [Expression.read, Scope.variable_shift]
    rfl
  | base name => rfl
  | arrow source target sourceIH targetIH =>
    simp only [Expression.read, targetIH, shiftRead, sourceIH]
    rfl
  | list element ih | maybe element ih =>
    simp only [Expression.read, ih]
    rfl
  | either left right leftIH rightIH =>
    simp only [Expression.read, leftIH, shiftRead, rightIH]
    rfl
  | vector length => rfl
  | quantified name body ih =>
    simp only [Expression.read, Scope.bind_shift, ih, shiftRead, Scope.restore_shift]
    rfl

/-- **Reading does not depend on the supply but for the variables.** -/
theorem readExpression_shift (offset : Nat) (scope : Scope) (term : Term) :
    readExpression (scope.shift offset) term = (readExpression scope term).map (shiftRead offset) := by
  rcases writesOrReports term with ⟨expression, writes⟩ | ⟨problem, -, fails⟩
  · rw [writes.readExpression, writes.readExpression, Expression.read_shift]
    rfl
  · rw [fails, fails]
    rfl

/-! ## Variables below the supply -/

/-- All variables that names stand for were drawn before the supply. -/
def Scope.Bounded (scope : Scope) : Prop :=
  ∀ name id, scope.names.get? name = some id → id < scope.supply

/-- Reading from one scope to another draws a type between their supplies. -/
structure ReadsTo (before : Scope) (ty : Ty) (after : Scope) : Prop where
  bounded : after.Bounded
  le_supply : before.supply ≤ after.supply
  below : ∀ id ∈ ty.vars, id < after.supply

theorem ReadsTo.both {before middle after : Scope} {first second ty : Ty}
    (atFirst : ReadsTo before first middle) (atSecond : ReadsTo middle second after)
    (split : ∀ {id : Nat}, id ∈ ty.vars → id ∈ first.vars ∨ id ∈ second.vars) :
    ReadsTo before ty after := by
  refine ⟨atSecond.bounded, Nat.le_trans atFirst.le_supply atSecond.le_supply, fun id member => ?_⟩
  rcases split member with inside | inside
  · exact Nat.lt_of_lt_of_le (atFirst.below id inside) atSecond.le_supply
  · exact atSecond.below id inside

namespace Scope.Bounded

variable {scope outer : Scope}

theorem bind (bounded : scope.Bounded) (name : String) : (scope.bind name).2.Bounded := by
  intro other id found
  simp only [Scope.bind] at found ⊢
  rw [Dict.get?_insert] at found
  split at found
  · exact Option.some.inj found ▸ Nat.lt_succ_self _
  · exact Nat.lt_succ_of_lt (bounded other id found)

theorem readsTo_variable (bounded : scope.Bounded) (name : String) :
    ReadsTo scope (.var (scope.variable name).1) (scope.variable name).2 := by
  unfold Scope.variable
  cases found : scope.names.get? name with
  | some id =>
    refine ⟨bounded, Nat.le_refl _, fun other member => ?_⟩
    simp only [vars, List.mem_singleton] at member
    exact member ▸ bounded name id found
  | none =>
    refine ⟨bounded.bind name, Nat.le_succ _, fun other member => ?_⟩
    simp only [vars, List.mem_singleton] at member
    exact member ▸ Nat.lt_succ_self _

theorem restore (bounded : scope.Bounded) (outerBounded : outer.Bounded)
    (order : outer.supply ≤ scope.supply) (name : String) : (scope.restore outer name).Bounded := by
  unfold Scope.restore
  cases bound : outer.names.get? name with
  | some inside =>
    intro other id found
    simp only at found ⊢
    rw [Dict.get?_insert] at found
    split at found
    · have := outerBounded name inside bound
      have := Option.some.inj found
      omega
    · exact bounded other id found
  | none =>
    intro other id found
    simp only at found ⊢
    rw [Dict.get?_erase] at found
    split at found
    · simp at found
    · exact bounded other id found

end Scope.Bounded

theorem Expression.readsTo (expression : Expression) {scope : Scope} (bounded : scope.Bounded) :
    ReadsTo scope (expression.read scope).1 (expression.read scope).2 := by
  induction expression generalizing scope with
  | named name => exact bounded.readsTo_variable name
  | base name => exact ⟨bounded, Nat.le_refl _, fun id member => by simp [Expression.read, vars] at member⟩
  | arrow source target sourceIH targetIH =>
    have readsTarget := targetIH bounded
    exact readsTarget.both (sourceIH readsTarget.bounded) fun member => (List.mem_append.1 member).symm
  | list element ih | maybe element ih =>
    have readsElement := ih bounded
    exact ⟨readsElement.bounded, readsElement.le_supply, readsElement.below⟩
  | either left right leftIH rightIH =>
    have readsLeft := leftIH bounded
    exact readsLeft.both (rightIH readsLeft.bounded) List.mem_append.1
  | vector length =>
    exact ⟨bounded, Nat.le_refl _, fun id member => by simp [Expression.read, vars] at member⟩
  | quantified name body ih =>
    have readsBody := ih (bounded.bind name)
    have order : scope.supply ≤ (body.read (scope.bind name).2).2.supply :=
      Nat.le_of_succ_le readsBody.le_supply
    refine ⟨readsBody.bounded.restore bounded order name, ?_, ?_⟩
    · simpa only [Expression.read, Scope.restore_supply] using order
    · simp only [Expression.read, Scope.restore_supply]
      exact readsBody.below

theorem readsTo_of_readExpression {scope : Scope} {term : Term} (bounded : scope.Bounded) {ty : Ty}
    {after : Scope} (reads : readExpression scope term = .ok (ty, after)) : ReadsTo scope ty after := by
  obtain ⟨expression, -, same⟩ := readExpression_eq_ok_iff.1 reads
  have readsTo := expression.readsTo bounded
  rwa [same] at readsTo

/-! ## Fresh copies -/

theorem ofTerm_eq_shift (ascription : Term) (supply : Nat) :
    ofTerm ascription supply =
      (ofTerm ascription 0).map fun result => (result.1.shift supply, supply + result.2) := by
  have moved := readExpression_shift supply ⟨∅, 0⟩ ascription
  have start : Scope.shift supply ⟨∅, 0⟩ = ⟨∅, supply⟩ := rfl
  rw [start] at moved
  unfold ofTerm
  rw [moved]
  cases readExpression ⟨∅, 0⟩ ascription <;> rfl

/-- A type is the one that a term writes. -/
def WrittenBy (ty : Ty) (ascription : Term) : Prop := ∃ size, ofTerm ascription 0 = .ok (ty, size)

/-- **Every use of an annotation draws a fresh copy** of the type that it writes. -/
theorem ofTerm_eq_ok_iff {ascription : Term} {supply after : Nat} {ty : Ty} :
    ofTerm ascription supply = .ok (ty, after) ↔
      ∃ declared size, ofTerm ascription 0 = .ok (declared, size) ∧ ty = declared.shift supply ∧
        after = supply + size := by
  rw [ofTerm_eq_shift]
  cases ofTerm ascription 0 with
  | error problem => simp [Except.map]
  | ok result =>
    obtain ⟨declared, size⟩ := result
    simp only [Except.map, Except.ok.injEq, Prod.mk.injEq]
    constructor
    · rintro ⟨rfl, rfl⟩
      exact ⟨declared, size, ⟨rfl, rfl⟩, rfl, rfl⟩
    · rintro ⟨_, _, ⟨rfl, rfl⟩, rfl, rfl⟩
      exact ⟨rfl, rfl⟩

theorem lt_of_ofTerm {ascription : Term} {declared : Ty} {size : Nat}
    (writes : ofTerm ascription 0 = .ok (declared, size)) : ∀ id ∈ declared.vars, id < size := by
  obtain ⟨⟨ty, scope⟩, reads, same⟩ := bind_eq_ok.1 writes
  cases same
  have bounded : Scope.Bounded ⟨∅, 0⟩ := fun name id found => by simp at found
  exact (readsTo_of_readExpression bounded reads).below

end Ty

end TermSpace
