import TermSpace.Dict
import TermSpace.Ty.Error

/-!
# The classifier

The classifier finds out the shapes of terms and remembers them by name: by the name of an atom and the
operator of a compound.  What is remembered for a name holds for every term of the name, so that a
declaration, or the first term that is classified, decides for all others.
-/

namespace TermSpace

set_option autoImplicit false

/-- The shapes that are remembered. -/
structure Classifier where
  shapes : Dict String Shape

namespace Classifier

/-- The classifier that remembers nothing. -/
def empty : Classifier := ⟨∅⟩

instance : EmptyCollection Classifier := ⟨empty⟩

/-- Fix the shape of all terms of a name. -/
def declare (classifier : Classifier) (name : String) (shape : Shape) : Classifier :=
  ⟨classifier.shapes.insert name shape⟩

/-- **Classification:** the shape that is remembered, or else that of the term, which is remembered from
then on. -/
def classify (classifier : Classifier) (term : Term) : Shape × Classifier :=
  match classifier.shapes.get? term.name with
  | some shape => (shape, classifier)
  | none => (Shape.ofTerm term, classifier.declare term.name (Shape.ofTerm term))

/-- **Annotation.** Check that a term is of a shape of a given name or below it. -/
def annotate (classifier : Classifier) (term : Term) (expected : String) :
    Except TypeError Shape × Classifier :=
  match Shape.ofName? expected with
  | none => (.error (.unknownTypeName expected), classifier)
  | some shape =>
    let (actual, next) := classifier.classify term
    if actual.isSubtypeOf shape then (.ok actual, next)
    else (.error (.annotationMismatch shape actual term), next)

/-- Forget everything. -/
def clear (_ : Classifier) : Classifier := empty

/-- How many names are remembered. -/
def size (classifier : Classifier) : Nat := classifier.shapes.size

end Classifier

end TermSpace
