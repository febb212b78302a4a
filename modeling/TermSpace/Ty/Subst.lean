import TermSpace.Dict
import TermSpace.Ty.Basic

/-!
# Type substitutions

A substitution gives types to variables, and the types may mention further variables that it knows.
Applying it resolves all of them.  As long as no variable leads back to itself, a chain of bindings goes
through each variable once at most, so that as many rounds as there are bindings resolve everything.
-/

namespace TermSpace

set_option autoImplicit false

/-- Types under variables. -/
abbrev Subst := Dict Nat Ty

/-- Put types for variables, those that quantifiers bind among them. -/
def Ty.replace (image : Nat → Option Ty) : Ty → Ty
  | .var id => (image id).getD (.var id)
  | .base name => .base name
  | .vector length => .vector length
  | .arrow source target => .arrow (source.replace image) (target.replace image)
  | .either left right => .either (left.replace image) (right.replace image)
  | .list element => .list (element.replace image)
  | .maybe element => .maybe (element.replace image)
  | .quantified id body => .quantified id (body.replace image)

namespace Subst

/-- Resolve variables, and the variables in their types, so many rounds deep. -/
def resolve (subst : Subst) : (rounds : Nat) → Ty → Ty
  | 0, ty => ty
  | rounds + 1, ty => ty.replace fun id => (subst.get? id).map (resolve subst rounds)

/-- **Application** of a substitution. -/
def apply (subst : Subst) (ty : Ty) : Ty := subst.resolve subst.size ty

/-- Bind a variable to a type, unless it occurs in the type without being it. -/
def bindVar? (subst : Subst) (id : Nat) (ty : Ty) : Option Subst :=
  if ty = .var id then some subst
  else if ty.occurs id then none
  else some (subst.insert id ty)

end Subst

end TermSpace
