import Mathlib.Data.List.DropRight
import TermSpace.Proofs.Classifier.Shapes

/-!
# Classifiers and their histories

What a classifier remembers is a matter of the calls since it was cleared last.  For a name it remembers the shape
that was declared last, whatever has been classified before or after.  If none was declared, it remembers the
shape of the term of the name that was classified first, be it by a classification or by an annotation, also one
that failed.  An annotation with a text that names no shape classifies nothing.

Both are read off the calls alone (`latestDeclared?`, `firstClassified?`).  One call has one effect on what is
remembered for a name (`get?_call`), and the two views change in the same way when a call is put at the end of a
history (`recalled?_concat`), so that they stay in step (`get?_callAll`).  What a classifier answers comes from
nothing else (`answers_follow_history`).
-/

namespace TermSpace.Classifier

set_option autoImplicit false

/-! ## Histories -/

/-- A call of a classifier. -/
inductive Call where
  | declare (name : String) (shape : Shape)
  | classify (term : Term)
  | annotate (term : Term) (expected : String)
  | clear

/-- The classifier after a call. -/
def call (classifier : Classifier) : Call → Classifier
  | .declare name shape => classifier.declare name shape
  | .classify term => (classifier.classify term).2
  | .annotate term expected => (classifier.annotate term expected).2
  | .clear => classifier.clear

/-- The classifier after calls one after the other. -/
def callAll (classifier : Classifier) (history : List Call) : Classifier := history.foldl call classifier

namespace Call

/-- Whether a call makes the classifier forget everything. -/
def clears : Call → Bool
  | .clear => true
  | _ => false

/-- The shape that a call declares of a name. -/
def declared? (name : String) : Call → Option Shape
  | .declare other shape => if other = name then some shape else none
  | _ => none

/-- The term of a name that a call classifies. -/
def classified? (name : String) : Call → Option Term
  | .classify term => if term.name = name then some term else none
  | .annotate term expected =>
    if term.name = name ∧ (Shape.ofName? expected).isSome then some term else none
  | _ => none

end Call

/-- The calls since the classifier was cleared last. -/
def sinceCleared (history : List Call) : List Call := history.rtakeWhile fun call => !call.clears

/-- The shape that calls declare of a name last. -/
def latestDeclared? (name : String) (calls : List Call) : Option Shape :=
  calls.reverse.findSome? (Call.declared? name)

/-- The term of a name that calls classify first. -/
def firstClassified? (name : String) (calls : List Call) : Option Term :=
  calls.findSome? (Call.classified? name)

/-- **What calls tell of a name:** the shape that is declared last, or else that of the term that is classified
first. -/
def recalled? (name : String) (calls : List Call) : Option Shape :=
  (latestDeclared? name calls).or ((firstClassified? name calls).map Shape.ofTerm)

/-! ## One call -/

/-- A classification remembers the shape of the term, unless something is remembered for the name. -/
theorem get?_classify (classifier : Classifier) (term : Term) (name : String) :
    (classifier.classify term).2.shapes.get? name =
      (classifier.shapes.get? name).or (if term.name = name then some (Shape.ofTerm term) else none) := by
  rw [classify]
  cases remembered : classifier.shapes.get? term.name with
  | some shape =>
    by_cases same : term.name = name
    · subst same
      simp [remembered]
    · simp [same]
  | none =>
    dsimp only [declare]
    rw [Dict.get?_insert]
    by_cases same : term.name = name
    · subst same
      simp [remembered]
    · simp [same]

/-- An annotation with a text that names no shape fails, and classifies nothing. -/
theorem annotate_unknown (classifier : Classifier) (term : Term) {expected : String}
    (unknown : ∀ shape : Shape, shape.name ≠ expected) :
    classifier.annotate term expected = (.error (.unknownTypeName expected), classifier) := by
  rw [annotate, Shape.ofName?_eq_none_iff.2 unknown]

/-- **One call** declares a shape of a name, or remembers that of the term it classifies if nothing is remembered
for the name. -/
theorem get?_call (classifier : Classifier) {call : Call} (keeps : call.clears = false) (name : String) :
    (classifier.call call).shapes.get? name =
      (call.declared? name).or
        ((classifier.shapes.get? name).or ((call.classified? name).map Shape.ofTerm)) := by
  cases call with
  | declare other shape =>
    simp only [Classifier.call, declare, Dict.get?_insert, Call.declared?, Call.classified?]
    split <;> simp
  | classify term =>
    simp only [Classifier.call, get?_classify, Call.declared?, Call.classified?, Option.none_or]
    split <;> rfl
  | annotate term expected =>
    simp only [Classifier.call, Call.declared?, Call.classified?, Option.none_or]
    cases named : Shape.ofName? expected with
    | none =>
      rw [annotate_unknown classifier term (Shape.ofName?_eq_none_iff.1 named)]
      simp
    | some shape =>
      obtain rfl := Shape.ofName?_eq_some_iff.1 named
      rw [annotate_name, get?_classify]
      by_cases same : term.name = name <;> simp [same]
  | clear => cases keeps

/-- **One call more** at the end of some calls. -/
theorem recalled?_concat (name : String) (calls : List Call) (call : Call) :
    recalled? name (calls ++ [call]) =
      (call.declared? name).or ((recalled? name calls).or ((call.classified? name).map Shape.ofTerm)) := by
  have latest : latestDeclared? name (calls ++ [call]) =
      (call.declared? name).or (latestDeclared? name calls) := by
    rw [latestDeclared?, List.reverse_append, List.findSome?_append, List.reverse_singleton,
      List.findSome?_singleton]
    rfl
  have first : firstClassified? name (calls ++ [call]) =
      (firstClassified? name calls).or (call.classified? name) := by
    rw [firstClassified?, List.findSome?_append, List.findSome?_singleton]
    rfl
  rw [recalled?, latest, first, Option.map_or, Option.or_assoc, recalled?, Option.or_assoc]

/-- What is told of the name of a term, or else what the term looks like. -/
theorem getD_recalled? (name : String) (calls : List Call) (term : Term) :
    (recalled? name calls).getD (Shape.ofTerm term) =
      (latestDeclared? name calls).getD (Shape.ofTerm ((firstClassified? name calls).getD term)) := by
  rw [recalled?]
  cases latestDeclared? name calls <;> cases firstClassified? name calls <;> rfl

/-! ## All calls -/

/-- **What a classifier remembers** is what the calls since it was cleared last tell. -/
theorem get?_callAll (history : List Call) (name : String) :
    (callAll ∅ history).shapes.get? name = recalled? name (sinceCleared history) := by
  induction history using List.reverseRecOn with
  | nil => rfl
  | append_singleton history call ih =>
    rw [callAll, List.foldl_append, List.foldl_cons, List.foldl_nil, ← callAll, sinceCleared,
      List.rtakeWhile_concat]
    cases clears : call.clears with
    | true =>
      cases call <;> cases clears
      rfl
    | false =>
      rw [get?_call _ clears, ih, Bool.not_false, if_pos rfl, recalled?_concat]
      rfl

/-- **What a classifier answers follows from the history of its calls.**  A term is classified as the shape that
was declared of its name last since the classifier was cleared, and if none was, as the first term of the name
that has been classified since then looks, or as the term itself if there is none.  An annotation with a text that
names no shape fails and changes nothing; with the name of a shape it classifies the term in this way, and
succeeds with the answer if this is the shape or below it. -/
theorem answers_follow_history (history : List Call) (term : Term) :
    let classifier := callAll ∅ history
    let calls := sinceCleared history
    let answer := (latestDeclared? term.name calls).getD
      (Shape.ofTerm ((firstClassified? term.name calls).getD term))
    (classifier.classify term).1 = answer ∧
    (∀ text, (∀ shape : Shape, shape.name ≠ text) →
      classifier.annotate term text = (.error (.unknownTypeName text), classifier)) ∧
    ∀ shape : Shape, classifier.annotate term shape.name =
      (if answer.isSubtypeOf shape then .ok answer else .error (.annotationMismatch shape answer term),
        (classifier.classify term).2) := by
  intro classifier calls answer
  have classified : (classifier.classify term).1 = answer := by
    rw [classify_fst, get?_callAll, getD_recalled?]
  refine ⟨classified, fun text unknown => annotate_unknown classifier term unknown, fun shape => ?_⟩
  rw [annotate_name, classified]

/-- A declaration that is cleared away, an annotation with a text that names no shape, and one that fails. -/
def sharing : List Call :=
  [.declare "f" .bool, .clear, .annotate (.atom "f") "Integer", .annotate (.compound "f" []) "Symbol"]

/-- The compound is the first that is classified, and the atom of the same name is taken for what it is, until the
name is declared again. -/
theorem answers_follow_history_sharing :
    ((callAll ∅ sharing).classify (.atom "f")).1 = .expression ∧
    (∀ shape : Shape, shape.name ≠ "Integer") ∧
    (callAll ∅ sharing).annotate (.atom "f") "Integer" = (.error (.unknownTypeName "Integer"), callAll ∅ sharing) ∧
    ((callAll ∅ sharing).annotate (.atom "f") "Symbol").1 =
      .error (.annotationMismatch .symbol .expression (.atom "f")) ∧
    ((callAll ∅ (sharing ++ [.declare "f" .number])).classify (.compound "f" [])).1 = .number := by
  have unknown : ∀ shape : Shape, shape.name ≠ "Integer" := by
    intro shape
    cases shape <;> decide
  obtain ⟨classified, fails, annotated⟩ := answers_follow_history sharing (.atom "f")
  refine ⟨classified.trans rfl, unknown, fails _ unknown, ?_, ?_⟩
  · exact congrArg Prod.fst (annotated .symbol)
  · exact (answers_follow_history (sharing ++ [.declare "f" .number]) (.compound "f" [])).1

end TermSpace.Classifier
