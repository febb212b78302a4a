import TermSpace.Grounded.Builtins
import TermSpace.Proofs.Matching.Exact

/-!
# Grounded calls on closed terms

A grounded function is native, and nothing is known of it but what is asked of it.  What evaluation asks of a
function is that it keeps closed terms closed: called with terms without variables it answers with such a
term, or it fails, and the matches that it makes have an outcome (`Registry.KeepsClosed`).

The functions that are always there do so in every space (`Builtins.keepsClosed`).  Numbers and truth values
are written without the marks of a variable.  The pattern of `&match` is closed and matches itself and nothing
else, whatever variables stand in the atoms of the space.
-/

namespace TermSpace

set_option autoImplicit false

/-! ## The names of numbers -/

/-- A text without the marks of a variable. -/
def Unmarked (text : String) : Prop := ∀ character ∈ text.toList, character ≠ '$' ∧ character ≠ '?'

-- by the characters of the text, not by all characters that there are
instance (text : String) : Decidable (Unmarked text) :=
  List.decidableBAll (fun character => character ≠ '$' ∧ character ≠ '?') text.toList

namespace Unmarked

theorem append {first second : String} (left : Unmarked first) (right : Unmarked second) :
    Unmarked (first ++ second) := by
  intro character member
  rw [String.toList_append, List.mem_append] at member
  exact member.elim (left character) (right character)

theorem ofList {characters : List Char}
    (numeral : ∀ character ∈ characters, character.isDigit ∨ character = '.') :
    Unmarked (String.ofList characters) := by
  intro character member
  rw [String.toList_ofList] at member
  rcases numeral character member with digit | rfl
  · constructor <;> rintro rfl <;> exact absurd digit (by decide)
  · decide

theorem not_isVariableName {text : String} (unmarked : Unmarked text) :
    Term.isVariableName text = false := by
  rw [Term.isVariableName]
  split
  · next rest starts => exact absurd rfl (unmarked '$' (by simp [starts])).1
  · next rest starts => exact absurd rfl (unmarked '?' (by simp [starts])).2
  · rfl

end Unmarked

namespace Number

theorem unmarked_placePoint {digits : List Char} (numeral : ∀ digit ∈ digits, digit.isDigit)
    {wholeMark : String} (mark : Unmarked wholeMark) (point : Int) :
    Unmarked (placePoint wholeMark digits point) := by
  have zero : '0'.isDigit := by decide
  rw [placePoint]
  split
  · refine .append (.ofList fun character member => .inl ?_) mark
    rcases List.mem_append.1 member with digit | padding
    · exact numeral character digit
    · rwa [(List.mem_replicate.1 padding).2]
  split
  · refine .ofList fun character member => ?_
    rcases List.mem_append.1 member with digit | later
    · exact .inl (numeral character (List.mem_of_mem_take digit))
    · rcases List.mem_cons.1 later with point | digit
      · exact .inr point
      · exact .inl (numeral character (List.mem_of_mem_drop digit))
  · refine .append (by decide) (.ofList fun character member => .inl ?_)
    rcases List.mem_append.1 member with padding | digit
    · rwa [(List.mem_replicate.1 padding).2]
    · exact numeral character digit

/-- A plain numeral has no mark of a variable. -/
theorem unmarked_write (value : Float) : Unmarked (plain.write value) := by
  rw [Style.write]
  split
  · decide
  · split <;> decide
  · next negative magnitude _ =>
    refine .append (by split <;> decide) ?_
    split
    · decide
    · rw [Style.writeDecimal]
      exact unmarked_placePoint
        (fun digit member => Nat.isDigit_of_mem_toDigits (by decide) (by decide) member) (by decide) _

end Number

namespace Term

theorem closed_number (value : Float) : (number value).Closed := by
  refine closed_atom.2 (Unmarked.not_isVariableName ?_)
  rw [nameOfNumber]
  split
  · decide
  · exact Number.unmarked_write value

theorem closed_boolean (value : Bool) : (boolean value).Closed := by
  cases value <;> decide

end Term

/-! ## What is asked of a function -/

namespace GroundedError

variable {α β : Type}

/-- The call comes to an end, and its result is good if it has one. -/
def Returns (Good : α → Prop) : Except GroundedError α → Prop
  | .ok result => Good result
  | .error (.matching _) => False
  | .error _ => True

/-- A call goes on from what it has so far. -/
theorem Returns.bind {Middle : α → Prop} {Good : β → Prop} {first : Except GroundedError α}
    {next : α → Except GroundedError β} (returns : Returns Middle first)
    (goesOn : ∀ value, Middle value → Returns Good (next value)) : Returns Good (first >>= next) := by
  cases first with
  | ok value => exact goesOn value returns
  | error problem => cases problem <;> exact returns

theorem Returns.map {Middle : α → Prop} {Good : β → Prop} {outcome : Except GroundedError α}
    {change : α → β} (returns : Returns Middle outcome)
    (good : ∀ value, Middle value → Good (change value)) : Returns Good (outcome.map change) := by
  cases outcome with
  | ok value => exact good value returns
  | error problem => cases problem <;> exact returns

end GroundedError

open GroundedError (Returns)

/-- Called in a space with closed arguments, the function comes to an end, and its result is closed. -/
def GroundedFunction.KeepsClosed (function : GroundedFunction) (space : Space) : Prop :=
  ∀ arguments, (∀ argument ∈ arguments, argument.Closed) → Returns Term.Closed (function space arguments)

namespace Registry

/-- Something holds of all functions of the registry. -/
def All (registry : Registry) (Good : GroundedFunction → Prop) : Prop :=
  ∀ name function, registry.functions.get? name = some function → Good function

/-- All functions of the registry keep closed terms closed in a space. -/
def KeepsClosed (registry : Registry) (space : Space) : Prop :=
  ∀ name function, registry.functions.get? name = some function →
    GroundedFunction.KeepsClosed function space

variable {registry : Registry} {space : Space} {Good : GroundedFunction → Prop}

theorem all_empty (Good : GroundedFunction → Prop) : All ∅ Good := by
  intro name function found
  cases found

theorem All.register (all : registry.All Good) {function : GroundedFunction} (good : Good function)
    (name : String) : (registry.register name function).All Good := by
  intro other found stored
  rw [Registry.register, Dict.get?_insert] at stored
  split at stored
  · cases stored
    exact good
  · exact all other found stored

theorem All.registerAll {functions : List (String × GroundedFunction)}
    (goodAll : ∀ entry ∈ functions, Good entry.2) (all : registry.All Good) :
    (functions.foldl (fun registry entry => registry.register entry.1 entry.2) registry).All Good := by
  induction functions generalizing registry with
  | nil => exact all
  | cons entry rest ih =>
    exact ih (fun later member => goodAll later (List.mem_cons_of_mem _ member))
      (all.register (goodAll entry List.mem_cons_self) entry.1)

/-- A call by name comes to an end as well, also if there is no function of the name. -/
theorem KeepsClosed.execute (keeps : registry.KeepsClosed space) (name : String)
    {arguments : List Term} (closed : ∀ argument ∈ arguments, argument.Closed) :
    Returns Term.Closed (registry.execute space name arguments) := by
  rw [Registry.execute]
  cases found : registry.functions.get? (groundedName name) with
  | none => trivial
  | some function => exact keeps _ function found arguments closed

end Registry

/-! ## The functions that are always there -/

namespace Builtins

variable {space : Space}

theorem returns_readNumber (name : String) (argument : Term) :
    Returns (fun _ => True) (readNumber name argument) := by
  rw [readNumber]
  split <;> trivial

theorem returns_accumulate (name : String) {combine : Float → Float → Except GroundedError Float}
    (combines : ∀ left right, Returns (fun _ => True) (combine left right)) (result : Float)
    (arguments : List Term) : Returns (fun _ => True) (accumulate name combine result arguments) := by
  induction arguments generalizing result with
  | nil => trivial
  | cons argument rest ih =>
    refine (returns_readNumber name argument).bind fun value _ => ?_
    exact (combines result value).bind fun next _ => ih next

theorem keepsClosed_fromSeed (name : String) {combine : Float → Float → Except GroundedError Float}
    (combines : ∀ left right, Returns (fun _ => True) (combine left right)) (seed : Float) :
    (fromSeed name combine seed).KeepsClosed space := fun arguments _ =>
  (returns_accumulate name combines seed arguments).map fun value _ => Term.closed_number value

theorem keepsClosed_fromFirst (name : String) {combine : Float → Float → Except GroundedError Float}
    (combines : ∀ left right, Returns (fun _ => True) (combine left right)) :
    (fromFirst name combine).KeepsClosed space := by
  intro arguments _
  cases arguments with
  | nil => trivial
  | cons first rest =>
    refine (returns_readNumber name first).bind fun start _ => ?_
    exact (returns_accumulate name combines start rest).map fun value _ => Term.closed_number value

theorem returns_divide (dividend divisor : Float) :
    Returns (fun _ => True) (divide dividend divisor) := by
  rw [divide]
  split <;> trivial

theorem keepsClosed_ofTwo (name : String) {answer : Term → Term → Except GroundedError Bool}
    (answers : ∀ first second, Returns (fun _ => True) (answer first second)) :
    (ofTwo name answer).KeepsClosed space := by
  intro arguments _
  unfold ofTwo
  split
  · exact (answers _ _).map fun value _ => Term.closed_boolean value
  · trivial

theorem keepsClosed_comparison (name : String) (holds : Float → Float → Bool) :
    (comparison name holds).KeepsClosed space :=
  keepsClosed_ofTwo name fun first second =>
    (returns_readNumber name first).bind fun _ _ =>
      (returns_readNumber name second).bind fun _ _ => trivial

theorem keepsClosed_negation : negation.KeepsClosed space := by
  intro arguments _
  unfold negation
  split
  · exact Term.closed_boolean _
  · trivial

/-- A closed pattern is compared with each atom, so that looking for it comes to an end. -/
theorem findAll_closed {pattern : Term} (closed : pattern.Closed) (atoms : List Term) :
    ∃ found, Matching.findAll pattern atoms = .ok found := by
  induction atoms with
  | nil => exact ⟨[], rfl⟩
  | cons atom rest ih =>
    obtain ⟨others, found⟩ := ih
    rw [Matching.findAll, Matching.find, Matching.extend_closed ∅ pattern atom closed, found]
    exact ⟨_, rfl⟩

theorem keepsClosed_matchAtoms : GroundedFunction.KeepsClosed matchAtoms space := by
  intro arguments closed
  unfold matchAtoms
  split
  · next target pattern template =>
    split
    · trivial
    · obtain ⟨found, outcome⟩ := findAll_closed (closed pattern (by simp)) space.atoms
      rw [Space.query, outcome]
      refine Term.closed_compound.2 fun component member => ?_
      obtain ⟨bindings, _, rfl⟩ := List.mem_map.1 member
      have templateClosed : template.Closed := closed template (by simp)
      rwa [templateClosed.substitute]
  · trivial

/-- **The functions that are always there keep closed terms closed,** in every space. -/
theorem keepsClosed (space : Space) : registry.KeepsClosed space := by
  show registry.All fun function => function.KeepsClosed space
  refine .registerAll ?_ (Registry.all_empty _)
  have self : Term.Closed (.atom selfName) := by decide
  simp only [List.forall_mem_cons, List.not_mem_nil, IsEmpty.forall_iff, implies_true, and_true]
  refine ⟨fun _ _ => self, keepsClosed_matchAtoms, keepsClosed_fromSeed _ ?_ _,
    keepsClosed_fromSeed _ ?_ _, keepsClosed_fromFirst _ ?_, keepsClosed_fromFirst _ returns_divide,
    keepsClosed_comparison _ _, keepsClosed_comparison _ _, keepsClosed_ofTwo _ ?_,
    fun _ _ => Term.closed_boolean _, fun _ _ => Term.closed_boolean _, keepsClosed_negation⟩
  all_goals exact fun _ _ => trivial

end Builtins

end TermSpace
