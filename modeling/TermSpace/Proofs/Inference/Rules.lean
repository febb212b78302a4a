import Mathlib.Logic.Function.Basic
import Mathlib.Tactic.Choose
import TermSpace.Inference.Constraints
import TermSpace.Proofs.Term.Parts
import TermSpace.Proofs.Ty.Annotations

/-!
# Typing rules

What the type of a term *is*, without constraints, fresh variables or an order in which a term is gone
through.  A context gives one type to every variable name, and an abstraction changes it for its parameter
and for the length of its body.  Declared names and annotations may have any instance of their types, a
different one at each use.

Terms of the forms below have a rule of their own (`Form`).  Every other term is an `Atom`, and nothing is
asked of its parts.
-/

namespace TermSpace.Inference

set_option autoImplicit false

/-! ## Forms of terms -/

/-- The terms with a rule of their own. -/
inductive Form : Term → Prop where
  | name (name : String) : Form (.atom name)
  | application (head arguments : Term) : Form (.compound Term.applyOperator [head, arguments])
  | product (first : Term) (rest : List Term) : Form (.compound Term.productOperator (first :: rest))
  | equation {operator : String} (isOperator : isEquation operator) (left right : Term) :
      Form (.compound operator [left, right])
  | abstraction {operator : String} (isOperator : isAbstraction operator) {parameter : Term}
      (isVariable : parameter.isVariable) (body : Term) : Form (.compound operator [parameter, body])
  | annotated (subject ascription : Term) : Form (.compound ":" [subject, ascription])

/-- The parts of a term that have a say in its type. -/
inductive LooksAt : (term part : Term) → Prop where
  | head (head arguments : Term) : LooksAt (.compound Term.applyOperator [head, arguments]) head
  | arguments (head arguments : Term) :
      LooksAt (.compound Term.applyOperator [head, arguments]) arguments
  | component {first part : Term} {rest : List Term} (member : part ∈ first :: rest) :
      LooksAt (.compound Term.productOperator (first :: rest)) part
  | left {operator : String} (isOperator : isEquation operator) (left right : Term) :
      LooksAt (.compound operator [left, right]) left
  | right {operator : String} (isOperator : isEquation operator) (left right : Term) :
      LooksAt (.compound operator [left, right]) right
  | body {operator : String} (isOperator : isAbstraction operator) {parameter : Term}
      (isVariable : parameter.isVariable) (body : Term) : LooksAt (.compound operator [parameter, body]) body
  | subject (subject ascription : Term) : LooksAt (.compound ":" [subject, ascription]) subject

/-- The annotations that have a say in the type of a term. -/
inductive Visits : (term ascription : Term) → Prop where
  | here (subject ascription : Term) : Visits (.compound ":" [subject, ascription]) ascription
  | inside {term part ascription : Term} (looks : LooksAt term part) (visits : Visits part ascription) :
      Visits term ascription

theorem LooksAt.mem_components {operator : String} {components : List Term} {part : Term}
    (looks : LooksAt (.compound operator components) part) : part ∈ components := by
  cases looks with
  | component member => exact member
  | _ => simp

/-- An annotation that has a say is one of a part. -/
theorem Visits.exists_part {term ascription : Term} (visits : Visits term ascription) :
    ∃ subject, Term.Part (.compound ":" [subject, ascription]) term := by
  induction visits with
  | here subject ascription => exact ⟨subject, .whole _⟩
  | @inside term part ascription looks _ ih =>
    obtain ⟨subject, within⟩ := ih
    cases term with
    | atom name => cases looks
    | compound operator components => exact ⟨subject, .inside looks.mem_components within⟩

/-- **Induction along the parts that have a say.** -/
theorem LooksAt.induction {motive : Term → Prop}
    (step : ∀ term, (∀ part, LooksAt term part → motive part) → motive term) (term : Term) :
    motive term := by
  induction term with
  | atom name =>
    refine step _ fun part looks => ?_
    cases looks
  | compound operator components ih => exact step _ fun part looks => ih part looks.mem_components

/-! ## Rules -/

/-- The types of a name that is no variable. -/
inductive NameTy (declarations : Dict String Ty) (name : String) : Ty → Prop where
  | number (isNumber : (Term.numberOfName? name).isSome) : NameTy declarations name .number
  | string (notNumber : ¬ (Term.numberOfName? name).isSome) (isText : Term.isTextLiteralName name) :
      NameTy declarations name .string
  | bool (notNumber : ¬ (Term.numberOfName? name).isSome) (notText : ¬ Term.isTextLiteralName name)
      (isTruth : Term.truthLiterals.contains name) : NameTy declarations name .bool
  | declared (notNumber : ¬ (Term.numberOfName? name).isSome) (notText : ¬ Term.isTextLiteralName name)
      (notTruth : ¬ Term.truthLiterals.contains name) {scheme ty : Ty}
      (found : declarations.get? name = some scheme) (isInstance : scheme.HasInstance ty) :
      NameTy declarations name ty
  | undeclared (notNumber : ¬ (Term.numberOfName? name).isSome) (notText : ¬ Term.isTextLiteralName name)
      (notTruth : ¬ Term.truthLiterals.contains name) (missing : declarations.get? name = none) :
      NameTy declarations name .atom

/-- **The types of a term** in a context. -/
inductive HasType (declarations : Dict String Ty) : (context : String → Ty) → Term → Ty → Prop where
  | inContext {context : String → Ty} {name : String} (isVariable : Term.isVariableName name) :
      HasType declarations context (.atom name) (context name)
  | name {context : String → Ty} {name : String} {ty : Ty} (notVariable : ¬ Term.isVariableName name)
      (nameTy : NameTy declarations name ty) : HasType declarations context (.atom name) ty
  | application {context : String → Ty} {head arguments : Term} {source target : Ty}
      (ofHead : HasType declarations context head (.arrow source target))
      (ofArguments : HasType declarations context arguments source) :
      HasType declarations context (.compound Term.applyOperator [head, arguments]) target
  | product {context : String → Ty} {first : Term} {rest : List Term} {ty : Ty}
      (ofFirst : HasType declarations context first ty) {others : Term → Ty}
      (ofRest : ∀ component ∈ rest, HasType declarations context component (others component)) :
      HasType declarations context (.compound Term.productOperator (first :: rest)) ty
  | equation {context : String → Ty} {operator : String} {left right : Term} {ty : Ty}
      (isOperator : isEquation operator) (ofLeft : HasType declarations context left ty)
      (ofRight : HasType declarations context right ty) :
      HasType declarations context (.compound operator [left, right]) .bool
  | abstraction {context : String → Ty} {operator : String} {parameter body : Term} {source target : Ty}
      (isOperator : isAbstraction operator) (isVariable : parameter.isVariable)
      (ofBody : HasType declarations (Function.update context parameter.name source) body target) :
      HasType declarations context (.compound operator [parameter, body]) (.arrow source target)
  | annotated {context : String → Ty} {subject ascription : Term} {declared : Ty}
      {assignment : Nat → Ty} (written : declared.WrittenBy ascription)
      (ofSubject : HasType declarations context subject (declared.under assignment)) :
      HasType declarations context (.compound ":" [subject, ascription]) (declared.under assignment)
  | other {context : String → Ty} {term : Term} (noForm : ¬ Form term) :
      HasType declarations context term .atom

/-- It is enough that every further component of a product has some type. -/
theorem HasType.product_of_typeable {declarations : Dict String Ty} {context : String → Ty} {first : Term}
    {rest : List Term} {ty : Ty} (ofFirst : HasType declarations context first ty)
    (typeable : ∀ component ∈ rest, ∃ other, HasType declarations context component other) :
    HasType declarations context (.compound Term.productOperator (first :: rest)) ty := by
  choose! others ofRest using typeable
  exact .product ofFirst ofRest

end TermSpace.Inference
