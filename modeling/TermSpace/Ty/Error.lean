import TermSpace.Shape
import TermSpace.Term.Render
import TermSpace.Ty.Basic

/-!
# Errors about types
-/

namespace TermSpace

set_option autoImplicit false

/-- What can be wrong about the type of a term. -/
inductive TypeError where
  /-- The two sides of a constraint do not meet. -/
  | mismatch (expected actual : Ty) (origin : Term)
  /-- A variable would have to be a type that it occurs in. -/
  | occursCheck (id : Nat) (ty : Ty)
  /-- A term has a shape that is not below the one it is said to have. -/
  | annotationMismatch (expected actual : Shape) (term : Term)
  /-- There is no shape of a name. -/
  | unknownTypeName (name : String)
  /-- A term is no type expression. -/
  | malformed (term : Term)

/-- What the user is told of an error. -/
def TypeError.message : TypeError → String
  | .mismatch expected actual origin =>
    "type mismatch: expected " ++ expected.render ++ ", got " ++ actual.render ++ " in " ++
      origin.render
  | .occursCheck id ty => "occurs check failed: " ++ (Ty.var id).render ++ " occurs in " ++ ty.render
  | .annotationMismatch expected actual term =>
    "annotation mismatch: " ++ term.render ++ " is " ++ actual.name ++ ", not " ++ expected.name
  | .unknownTypeName name => "unknown type name: " ++ name
  | .malformed term => "malformed type expression: " ++ term.render

/-- The code that an error is looked up under. -/
def TypeError.code : TypeError → String
  | .mismatch _ _ _ => "metta::types::mismatch"
  | .occursCheck _ _ => "metta::types::occurs_check"
  | .annotationMismatch _ _ _ => "metta::types::annotation"
  | .unknownTypeName _ => "metta::types::unknown_name"
  | .malformed _ => "metta::types::malformed"

/-- What may be done about an error. -/
def TypeError.help : TypeError → String
  | .mismatch _ _ _ =>
    "The two sides of a constraint could not be unified. " ++
    "Check the declared types of the symbols involved, " ++
    "or remove the annotation that forces the expected type."
  | .occursCheck _ _ =>
    "Binding the variable would build an infinite type. Self-application is not typeable."
  | .annotationMismatch _ _ _ =>
    "The structural classifier inferred a type that is neither the annotated type " ++
    "nor one of its subtypes."
  | .unknownTypeName _ =>
    "Annotations must use one of the built-in type names: " ++
    "Atom, Symbol, Number, String, Bool, Variable, Grounded, Expression, List."
  | .malformed _ =>
    "Type expressions look like Number, $a, (-> A B), (List A), (Maybe A), (Either A B) " ++
    "or (Vector 3)."

end TermSpace
