import TermSpace.Json.Number
import TermSpace.Json.Reader
import TermSpace.Json.Writer
import TermSpace.Reader.Term
import TermSpace.Term.Render

/-!
# Tasks

Terms are exchanged with a reasoner outside as tasks: the canonical text of the term, a punctuation mark
that says whether it is a judgment, a goal or a question, and a truth value unless it is a question.
-/

namespace TermSpace

set_option autoImplicit false

/-- What a task is about its term. -/
inductive Punctuation where
  | judgment
  | goal
  | question
deriving DecidableEq

namespace Punctuation

/-- The mark of a punctuation. -/
def mark : Punctuation → Char
  | .judgment => '.'
  | .goal => '!'
  | .question => '?'

/-- The punctuation of a mark. -/
def ofMark? (character : Char) : Option Punctuation :=
  [judgment, goal, question].find? fun punctuation => punctuation.mark = character

/-- The name of a punctuation. -/
def name : Punctuation → String
  | .judgment => "Judgment"
  | .goal => "Goal"
  | .question => "Question"

/-- The punctuation of a name. -/
def ofName? (name : String) : Option Punctuation :=
  [judgment, goal, question].find? fun punctuation => punctuation.name = name

/-- The punctuation that a JSON value stands for: its name, alone or with null. -/
def ofJson? (limit : Json.DepthLimit) : Json → Option Punctuation
  | .text name => ofName? name
  | .object [(name, .null)] => limit.enter >>= fun _ => ofName? name
  | _ => none

end Punctuation

/-- How often something holds, and how sure that is. -/
structure Truth where
  frequency : Float
  confidence : Float

namespace Truth

/-- The truth of what is said without one. -/
def standard : Truth := ⟨1.0, 0.9⟩

/-- A number moved into the unit interval; NaN stays what it is, and so does negative zero. -/
def clamp (value : Float) : Float :=
  if value < 0 then 0 else if value > 1 then 1 else value

/-- The truth of two numbers, moved into the unit interval. -/
def ofParts (frequency confidence : Float) : Truth := ⟨clamp frequency, clamp confidence⟩

/-- The JSON value of a truth. -/
def toJson (truth : Truth) : Json :=
  .object [("frequency", .ofFloat truth.frequency), ("confidence", .ofFloat truth.confidence)]

/-- The truth that a JSON value stands for: an object, or its two numbers in an array. -/
def ofJson? (limit : Json.DepthLimit) : Json → Option Truth
  | .array [frequency, confidence] => do
    let _ ← limit.enter
    return ⟨← frequency.toFloat?, ← confidence.toFloat?⟩
  | .object members => do
    let _ ← limit.enter
    let frequency ← ← Json.field? members "frequency"
    let confidence ← ← Json.field? members "confidence"
    return ⟨← frequency.toFloat?, ← confidence.toFloat?⟩
  | _ => none

end Truth

/-- A task. -/
structure Task where
  /-- The text of the term. -/
  term : String
  punctuation : Punctuation
  truth? : Option Truth

namespace Task

/-- **The task of a term.**  Judgments and goals have the standard truth, questions have none. -/
def ofTerm (term : Term) (punctuation : Punctuation) : Task :=
  ⟨term.render, punctuation, if punctuation = .question then none else some Truth.standard⟩

/-- The term of a task. -/
def readTerm (task : Task) : Except Reader.ReadError Term := Reader.readTerm task.term

/-- A task as text: the term, the mark, and the truth between percent signs. -/
def render (task : Task) : String :=
  task.term ++ task.punctuation.mark.toString ++
    match task.truth? with
    | none => ""
    | some truth =>
      " %" ++ Number.plain.write truth.frequency ++ ";" ++
        Number.plain.write truth.confidence ++ "%"

/-- The JSON value of a task. -/
def toJson (task : Task) : Json :=
  .object
    [("term", .text task.term), ("punctuation", .text task.punctuation.name),
      ("truth", .ofOption (task.truth?.map Truth.toJson))]

/-- An optional truth, with null for none. -/
def truthOfJson? (limit : Json.DepthLimit) : Json → Option (Option Truth)
  | .null => some none
  | value => (Truth.ofJson? limit value).map some

/-- The task that a JSON value stands for: an object, in which the truth may be missing, or its three
fields in an array. -/
def ofJson? (limit : Json.DepthLimit) : Json → Option Task
  | .array [term, punctuation, truth] => do
    let inside ← limit.enter
    return ⟨← term.toText?, ← Punctuation.ofJson? inside punctuation, ← truthOfJson? inside truth⟩
  | .object members => do
    let inside ← limit.enter
    let term ← ← Json.field? members "term"
    let punctuation ← ← Json.field? members "punctuation"
    let truth ← Json.field? members "truth"
    return ⟨← term.toText?, ← Punctuation.ofJson? inside punctuation,
      ← truthOfJson? inside (truth.getD .null)⟩
  | _ => none

/-- The task that a JSON text stands for. -/
def ofText? (text : String) : Option Task := Json.read? text >>= ofJson? Json.textDepthLimit

end Task

end TermSpace
