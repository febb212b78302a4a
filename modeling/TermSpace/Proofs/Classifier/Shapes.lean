import Mathlib.Logic.Relation
import TermSpace.Classifier

/-!
# Shapes and classification

Generality is the reflexive and transitive closure of being right below (`Shape.isSubtypeOf_iff`), and a term
that has a shape has all more general ones (`Shape.fits_of_isSubtypeOf`).  Not all shapes of a term are above one
another, though: variables and grounded references are atomic, so that they have the shape `symbol` by their
looks, but their own shapes are not below it (`Shape.Excepted`).

A term is classified as the first shape that it has.  The five kinds of atoms are told apart by the first
character of the name, so that an atom has one of them at most (`Shape.kind_unique`), and the order in which they
are tried makes no difference.  What is above the classification of a term is therefore what the term has, the
exceptions apart (`Shape.ofTerm_isSubtypeOf_iff`), and this is what annotations are checked against where nothing
is remembered (`Classifier.annotate_fits`).
-/

namespace TermSpace

set_option autoImplicit false

namespace Shape

/-! ## Generality -/

/-- One shape is right below another. -/
def Below (lower upper : Shape) : Prop := upper ∈ lower.parents

/-- What is found above a shape is more general. -/
theorem reflTransGen_of_mem_above {upper : Shape} : ∀ {steps : Nat} {lower : Shape},
    upper ∈ above steps lower → Relation.ReflTransGen Below lower upper
  | 0, lower, found => by
    obtain rfl := List.mem_singleton.1 found
    exact .refl
  | steps + 1, lower, found => by
    rw [above, List.mem_cons, List.mem_flatMap] at found
    rcases found with rfl | ⟨parent, below, found⟩
    · exact .refl
    · exact .head below (reflTransGen_of_mem_above found)

/-- Two steps lead to everything that is above a shape. -/
theorem parents_above (lower : Shape) :
    ∀ middle ∈ above 2 lower, ∀ upper ∈ middle.parents, upper ∈ above 2 lower := by
  cases lower <;> decide

/-- **Generality** is to be reached by steps from below to above. -/
theorem isSubtypeOf_iff {lower upper : Shape} :
    lower.isSubtypeOf upper ↔ Relation.ReflTransGen Below lower upper := by
  rw [isSubtypeOf, List.contains_iff_mem]
  refine ⟨reflTransGen_of_mem_above, fun leads => ?_⟩
  induction leads with
  | refl => exact List.mem_cons_self
  | tail _ below ih => exact parents_above lower _ ih _ below

/-- A shape is found by its name, and nothing else is. -/
theorem ofName?_eq_some_iff {name : String} {shape : Shape} : ofName? name = some shape ↔ shape.name = name := by
  constructor
  · intro found
    simpa using List.find?_some found
  · rintro rfl
    cases shape <;> rfl

theorem ofName?_eq_none_iff {name : String} : ofName? name = none ↔ ∀ shape : Shape, shape.name ≠ name := by
  simp only [Option.eq_none_iff_forall_ne_some, ne_eq, ofName?_eq_some_iff]

/-! ## What terms have -/

/-- What is right above a shape of a term is a shape of the term. -/
theorem fits_of_below {term : Term} {lower upper : Shape} (below : Below lower upper)
    (has : fits term lower = true) : fits term upper = true := by
  cases lower with
  | atom => cases below
  | list =>
    obtain rfl := List.mem_singleton.1 below
    cases term with
    | atom name => cases has
    | compound operator components => rfl
  | number | string | bool =>
    obtain rfl := List.mem_singleton.1 below
    cases term with
    | atom name => rfl
    | compound operator components => cases has
  | _ =>
    obtain rfl := List.mem_singleton.1 below
    rfl

/-- **A term that has a shape has all more general ones.** -/
theorem fits_of_isSubtypeOf {term : Term} {lower upper : Shape} (general : lower.isSubtypeOf upper)
    (has : fits term lower = true) : fits term upper = true := by
  have leads := isSubtypeOf_iff.1 general
  clear general
  induction leads with
  | refl => exact has
  | tail _ below ih => exact fits_of_below below ih

/-- A term has the shape that it is classified as. -/
theorem fits_ofTerm (term : Term) : fits term (ofTerm term) = true := by
  rw [ofTerm]
  cases found : precedence.find? (fits term) with
  | none => rfl
  | some shape => exact List.find?_some found

/-- The kinds of atoms that are told apart by the first character of the name. -/
def kinds : List Shape := [.variable, .grounded, .number, .string, .bool]

/-- The kind that names with a first character can be of, and `symbol` if they can be of none. -/
def ofFirst (first : Char) : Shape :=
  if first = '$' ∨ first = '?' then .variable
  else if first = '&' then .grounded
  else if Term.startsNumeral first then .number
  else if first = '"' then .string
  else if first = 'T' ∨ first = 'F' ∨ first = 't' ∨ first = 'f' then .bool
  else .symbol

/-- The kind of a name shows at its first character. -/
theorem ofFirst_of_fits {name : String} {shape : Shape} (kind : shape ∈ kinds)
    (has : fits (.atom name) shape = true) : name.toList.head?.map ofFirst = some shape := by
  simp only [kinds, List.mem_cons, List.not_mem_nil, or_false] at kind
  rcases kind with rfl | rfl | rfl | rfl | rfl
  · simp only [fits, Term.isVariable, Term.isVariableName] at has
    split at has
    · next starts => simp [starts, ofFirst]
    · next starts => simp [starts, ofFirst]
    · cases has
  · simp only [fits, Term.isGroundedReference, Term.isGroundedName] at has
    split at has
    · next starts =>
      rw [starts]
      rfl
    · cases has
  · simp only [fits, Term.number?, Term.numberOfName?] at has
    split at has
    · cases has
    · next first rest starts =>
      split at has
      · next numeral =>
        have apart : ∀ other, Term.startsNumeral other = false → first ≠ other := by
          rintro other word rfl
          rw [numeral] at word
          cases word
        simp [starts, ofFirst, numeral, apart '$' (by decide), apart '?' (by decide), apart '&' (by decide)]
      · cases has
  · simp only [fits, Term.isTextLiteral, Term.isTextLiteralName] at has
    split at has
    · next starts =>
      rw [starts]
      rfl
    · cases has
  · have spelled : name ∈ Term.truthLiterals := List.contains_iff_mem.1 has
    simp only [Term.truthLiterals, List.mem_cons, List.not_mem_nil, or_false] at spelled
    rcases spelled with rfl | rfl | rfl | rfl <;> rfl

/-- **An atom is of one kind at most.** -/
theorem kind_unique {name : String} {shape other : Shape} (kind : shape ∈ kinds) (otherKind : other ∈ kinds)
    (has : fits (.atom name) shape = true) (hasOther : fits (.atom name) other = true) : shape = other := by
  have here := ofFirst_of_fits kind has
  rw [ofFirst_of_fits otherKind hasOther] at here
  exact (Option.some.inj here).symm

/-! ## Classification -/

theorem ofTerm_atom (name : String) : ofTerm (.atom name) = (kinds.find? (fits (.atom name))).getD .symbol := by
  have tried : precedence = kinds ++ [.list, .expression, .symbol] := rfl
  have last : [Shape.list, .expression, .symbol].find? (fits (.atom name)) = some .symbol := by
    simp [fits, Term.operator?, Term.isAtomic]
  rw [ofTerm, tried, List.find?_append, last]
  cases kinds.find? (fits (.atom name)) <;> rfl

theorem ofTerm_compound (operator : String) (components : List Term) :
    ofTerm (.compound operator components) =
      if operator = Term.productOperator then .list else .expression := by
  have kindless : kinds.find? (fits (.compound operator components)) = none := by
    simp [kinds, fits, Term.isVariable, Term.isGroundedReference, Term.number?, Term.isTextLiteral,
      Term.isTruthLiteral]
  have tried : precedence = kinds ++ [.list, .expression, .symbol] := rfl
  rw [ofTerm, tried, List.find?_append, kindless]
  by_cases product : operator = Term.productOperator <;>
    simp [product, fits, Term.operator?, Term.isAtomic]

/-- **An atom of a kind is classified as it,** in whatever order the kinds are tried. -/
theorem ofTerm_of_kind {name : String} {shape : Shape} (kind : shape ∈ kinds)
    (has : fits (.atom name) shape = true) : ofTerm (.atom name) = shape := by
  rw [ofTerm_atom]
  cases found : kinds.find? (fits (.atom name)) with
  | none => exact absurd has (List.find?_eq_none.1 found shape kind)
  | some other =>
    exact kind_unique (List.mem_of_find?_eq_some found) kind (List.find?_some found) has

/-- An atom is classified as its kind, or as a symbol. -/
theorem ofTerm_atom_mem (name : String) : ofTerm (.atom name) ∈ kinds ∨ ofTerm (.atom name) = .symbol := by
  rw [ofTerm_atom]
  cases found : kinds.find? (fits (.atom name)) with
  | none => exact .inr rfl
  | some kind => exact .inl (List.mem_of_find?_eq_some found)

/-- **The exceptions:** a variable or a grounded reference where a symbol is asked for. -/
def Excepted (term : Term) (shape : Shape) : Prop :=
  shape = .symbol ∧ (term.isVariable = true ∨ term.isGroundedReference = true)

theorem not_isSubtypeOf_of_excepted {term : Term} {shape : Shape} (excepted : Excepted term shape) :
    ¬ (ofTerm term).isSubtypeOf shape := by
  obtain ⟨rfl, either⟩ := excepted
  cases term with
  | compound operator components => simp [Term.isVariable, Term.isGroundedReference] at either
  | atom name =>
    rcases either with marked | reference
    · rw [ofTerm_of_kind (by decide) (show fits (.atom name) .variable = true from marked)]
      decide
    · rw [ofTerm_of_kind (by decide) (show fits (.atom name) .grounded = true from reference)]
      decide

/-- Apart from the exceptions, a term is classified as something below every shape that it has. -/
theorem isSubtypeOf_of_fits {term : Term} {shape : Shape} (has : fits term shape = true)
    (ordinary : ¬ Excepted term shape) : (ofTerm term).isSubtypeOf shape := by
  cases term with
  | compound operator components =>
    rw [ofTerm_compound]
    cases shape with
    | atom => split <;> rfl
    | expression => split <;> rfl
    | list =>
      have product : operator = Term.productOperator := by simpa [fits, Term.operator?] using has
      rw [if_pos product]
      rfl
    | _ => cases has
  | atom name =>
    by_cases kind : shape ∈ kinds
    · rw [ofTerm_of_kind kind has]
      exact isSubtypeOf_iff.2 .refl
    have classified := fits_ofTerm (.atom name)
    have among := ofTerm_atom_mem name
    simp only [kinds, List.mem_cons, List.not_mem_nil, or_false] at among
    cases shape with
    | atom => rcases among with (same | same | same | same | same) | same <;> rw [same] <;> rfl
    | symbol =>
      rcases among with (same | same | same | same | same) | same <;> rw [same] at classified ⊢
      · exact absurd ⟨rfl, .inl classified⟩ ordinary
      · exact absurd ⟨rfl, .inr classified⟩ ordinary
      all_goals rfl
    | expression => cases has
    | list => cases has
    | _ => exact absurd (by decide) kind

/-- **What is above the classification of a term** is what the term has, the exceptions apart. -/
theorem ofTerm_isSubtypeOf_iff {term : Term} {shape : Shape} :
    (ofTerm term).isSubtypeOf shape ↔ fits term shape = true ∧ ¬ Excepted term shape :=
  ⟨fun general => ⟨fits_of_isSubtypeOf general (fits_ofTerm term),
      fun excepted => not_isSubtypeOf_of_excepted excepted general⟩,
    fun ⟨has, ordinary⟩ => isSubtypeOf_of_fits has ordinary⟩

end Shape

/-! ## Annotations -/

namespace Classifier

/-- A term is classified as what is remembered for its name, or else as what it looks like. -/
theorem classify_fst (classifier : Classifier) (term : Term) :
    (classifier.classify term).1 = (classifier.shapes.get? term.name).getD (Shape.ofTerm term) := by
  rw [classify]
  cases classifier.shapes.get? term.name <;> rfl

/-- An annotation with the name of a shape compares it with the classification. -/
theorem annotate_name (classifier : Classifier) (term : Term) (shape : Shape) :
    classifier.annotate term shape.name =
      (if (classifier.classify term).1.isSubtypeOf shape then .ok (classifier.classify term).1
        else .error (.annotationMismatch shape (classifier.classify term).1 term),
      (classifier.classify term).2) := by
  rw [annotate, Shape.ofName?_eq_some_iff.2 rfl]
  dsimp only
  split <;> rfl

/-- **Annotations of terms whose name is not remembered agree with what the terms look like.**  They succeed on the
shapes that a term has, except that a variable or a grounded reference is no symbol.  A term for which one
succeeds has the shape and all shapes above it. -/
theorem annotate_fits {classifier : Classifier} {term : Term} (fresh : classifier.shapes.get? term.name = none)
    (shape : Shape) :
    ((∃ actual, (classifier.annotate term shape.name).1 = .ok actual) ↔
      Shape.fits term shape = true ∧
        ¬ (shape = .symbol ∧ (term.isVariable = true ∨ term.isGroundedReference = true))) ∧
    ((∃ actual, (classifier.annotate term shape.name).1 = .ok actual) →
      ∀ upper, shape.isSubtypeOf upper → Shape.fits term upper = true) := by
  have succeeds : (∃ actual, (classifier.annotate term shape.name).1 = .ok actual) ↔
      (Shape.ofTerm term).isSubtypeOf shape := by
    rw [annotate_name, classify_fst, fresh, Option.getD_none]
    split <;> simp_all
  refine ⟨succeeds.trans Shape.ofTerm_isSubtypeOf_iff, fun annotated upper general => ?_⟩
  exact Shape.fits_of_isSubtypeOf general (Shape.ofTerm_isSubtypeOf_iff.1 (succeeds.1 annotated)).1

/-- A variable is no symbol for a classifier that remembers nothing, and a text literal is one. -/
theorem annotate_fits_exception :
    (∅ : Classifier).shapes.get? "$x" = none ∧ (∅ : Classifier).shapes.get? "\"a\"" = none ∧
    (¬ ∃ actual, (annotate ∅ (.atom "$x") "Symbol").1 = .ok actual) ∧
    (∃ actual, (annotate ∅ (.atom "\"a\"") "Symbol").1 = .ok actual) ∧
    Shape.fits (.atom "\"a\"") .atom = true := by
  have unmarked := @annotate_fits ∅ (.atom "$x") rfl .symbol
  have quoted := @annotate_fits ∅ (.atom "\"a\"") rfl .symbol
  have succeeds := quoted.1.2 (by decide)
  exact ⟨rfl, rfl, fun annotated => (unmarked.1.1 annotated).2 (by decide), succeeds,
    quoted.2 succeeds .atom (by decide)⟩

end Classifier

end TermSpace
