import TermSpace.Term.Basic

/-!
# Terms as text

The *canonical* text of a compound lists its operator and components behind commas, `(f, a, b)`; it
shows every node.  The *surface* text writes an application by juxtaposition, `(f a b)`, and all
other compounds as the canonical text does.
-/

namespace TermSpace.Term

set_option autoImplicit false

mutual

/-- The canonical text, `(f, a, b)`. -/
def render : Term → String
  | .atom name => name
  | .compound operator components => "(" ++ operator ++ renderAll components ++ ")"

/-- The canonical text of components, each behind a comma. -/
def renderAll : List Term → String
  | [] => ""
  | component :: rest => ", " ++ render component ++ renderAll rest

end

mutual

/-- The surface text, in which `(^, f, (*, a, b))` is `(f a b)`. -/
def renderSurface : Term → String
  | .atom name => name
  | .compound operator components =>
    match components with
    | [head, .compound inner arguments] =>
      if operator = applyOperator ∧ inner = productOperator then
        "(" ++ renderSurface head ++ renderSurfaceAll " " arguments ++ ")"
      else
        "(" ++ operator ++ renderSurfaceAll ", " [head, .compound inner arguments] ++ ")"
    | components => "(" ++ operator ++ renderSurfaceAll ", " components ++ ")"

/-- The surface text of components, each behind a separator. -/
def renderSurfaceAll (separator : String) : List Term → String
  | [] => ""
  | component :: rest => separator ++ renderSurface component ++ renderSurfaceAll separator rest

end

end TermSpace.Term
