import TermSpace.Term.Basic

/-!
# The order of terms

Every atom comes before every compound.  Atoms go by name, compounds by operator and then by their
components, the first difference deciding and a shorter list coming before a longer one that extends
it.  Names go by code point, which is also the order of their UTF-8 bytes.
-/

namespace TermSpace.Term

set_option autoImplicit false

/-- The order of names. -/
def compareNames (first second : String) : Ordering :=
  if first < second then .lt else if first = second then .eq else .gt

mutual

/-- The order of terms. -/
def compare : Term → Term → Ordering
  | .atom first, .atom second => compareNames first second
  | .atom _, .compound _ _ => .lt
  | .compound _ _, .atom _ => .gt
  | .compound operator₁ components₁, .compound operator₂ components₂ =>
    (compareNames operator₁ operator₂).then (compareAll components₁ components₂)

/-- The order of component lists. -/
def compareAll : List Term → List Term → Ordering
  | [], [] => .eq
  | [], _ :: _ => .lt
  | _ :: _, [] => .gt
  | head₁ :: tail₁, head₂ :: tail₂ => (compare head₁ head₂).then (compareAll tail₁ tail₂)

end

/-- A list of terms in ascending order. -/
def sort (terms : List Term) : List Term :=
  terms.mergeSort fun first second => compare first second != .gt

end TermSpace.Term
