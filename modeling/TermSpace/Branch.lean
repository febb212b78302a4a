/-!
# Superpositions

A branch is one value, or a superposition: any number of values at once, in an order.  The functions that
make branches from branches follow one rule of size: no value makes no branch, a single value stands by
itself, and two or more are a superposition.
-/

namespace TermSpace

set_option autoImplicit false

/-- One value, or a superposition of values. -/
inductive Branch (α : Type) where
  | value (value : α)
  | super (values : List α)

namespace Branch

variable {α β γ : Type}

/-- All values of a branch. -/
def values : Branch α → List α
  | .value held => [held]
  | .super held => held

/-- Whether a branch is a superposition. -/
def isSuper : Branch α → Bool
  | .value _ => false
  | .super _ => true

/-- **The rule of size.** -/
def settle : List α → Option (Branch α)
  | [] => none
  | [single] => some (.value single)
  | several => some (.super several)

/-- The superposition of the values of all branches, a superposition whatever their number. -/
def superpose (branches : List (Branch α)) : Branch α := .super (branches.flatMap values)

/-! ## Combining -/

/-- Replace each value by the values of a branch. -/
def spread (branch : Branch α) (next : α → Branch β) : Option (Branch β) :=
  settle (branch.values.flatMap fun value => (next value).values)

/-- Keep some of the values. -/
def keep (branch : Branch α) (wanted : α → Bool) : Option (Branch α) :=
  settle (branch.values.filter wanted)

/-- Replace each value by the values of a branch, or by nothing. -/
def bind (branch : Branch α) (next : α → Option (Branch β)) : Option (Branch β) :=
  settle ((branch.values.filterMap next).flatMap values)

/-- Combine each value of one branch with each value of another, the first one changing last. -/
def combine (first : Branch α) (second : Branch β) (join : α → β → γ) : Option (Branch γ) :=
  settle (first.values.flatMap fun left => second.values.map fun right => join left right)

/-! ## Collapsing -/

/-- A source of choices: asked for one of a positive number of values, it gives an index below that number
and the source for the next choice. -/
class Chooser (σ : Type) where
  choose : σ → Nat → Nat × σ

/-- **Collapsing** to one value.  Only a superposition with values is a choice. -/
def collapse {σ : Type} [Chooser σ] (branch : Branch α) (source : σ) : Option α × σ :=
  match branch with
  | .value held => (some held, source)
  | .super [] => (none, source)
  | .super held =>
    let (index, next) := Chooser.choose source held.length
    (held[index]?, next)

/-- The first value. -/
def collapseFirst (branch : Branch α) : Option α := branch.values.head?

/-- All values. -/
def collapseAll (branch : Branch α) : List α := branch.values

end Branch

/-- Choices that are made beforehand, and made again from the start when they run out. -/
structure Scripted where
  picks : List Nat
  /-- How many choices have been made, in a machine word. -/
  made : UInt64

/-- The script of some choices before the first of them. -/
def Scripted.ofPicks (picks : List Nat) : Scripted := ⟨picks, 0⟩

/-- The next choice, reduced to the number of values.  A script without choices always takes the first
value. -/
def Scripted.choose (script : Scripted) (count : Nat) : Nat × Scripted :=
  match script.picks[script.made.toNat % script.picks.length]? with
  | none => (0, script)
  | some pick => (pick % count, { script with made := script.made + 1 })

instance : Branch.Chooser Scripted := ⟨Scripted.choose⟩

end TermSpace
