import TermSpace.Proofs.Reader.Spelling
import TermSpace.Proofs.Ty.Expressions

/-!
# Types written and read back

A type is shown in surface syntax: its constructors stand in front of what they are applied to, and so does the
arrow.  A text in this syntax is read whatever is in it, if all of its parts are (`Reader.Spells.surface`), and
what its head makes of the parts depends on the head alone.  The heads are those of type expressions, so that a
base name is never taken for a constructor, though it may be `List` or the arrow itself.

So a type without variables, quantifiers and vectors is read back from its text, if its base names are tokens
and no variables (`ofTerm_readTerm_render`).
-/

namespace TermSpace

set_option autoImplicit false

namespace Ty

open Reader

/-- **Writable types.** Every base name is one token and no variable. -/
inductive Writable : Ty → Prop where
  | base {name : String} (readable : ReadableName name) (constant : Term.isVariableName name = false) :
      Writable (.base name)
  | arrow {source target : Ty} (first : Writable source) (second : Writable target) :
      Writable (.arrow source target)
  | list {element : Ty} (inside : Writable element) : Writable (.list element)
  | maybe {element : Ty} (inside : Writable element) : Writable (.maybe element)
  | either {left right : Ty} (first : Writable left) (second : Writable right) : Writable (.either left right)

/-- A type's text is read as a term from which the type is read in any scope. -/
def ReadsBack (ty : Ty) : Prop :=
  ∃ term, Spells ty.render term ∧ ∀ scope, readExpression scope term = .ok (ty, scope)

/-- The constructors of types are ordinary heads. -/
theorem spells_constructor {name : String} {texts : List String} {arguments : List Term}
    (constructs : name = "List" ∨ name = "Maybe" ∨ name = "Either")
    (each : List.Forall₂ Spells texts arguments) :
    Spells ("(" ++ name ++ behind " " texts ++ ")") (.apply (.atom name) arguments) := by
  have readable : ReadableName name := by
    rcases constructs with rfl | rfl | rfl <;> exact readableName_of_all (by decide) (by decide)
  refine .surface readable.spells each (.application arguments ?_)
  rintro _ ⟨⟩
  rcases constructs with rfl | rfl | rfl <;> decide

theorem Writable.readsBack {ty : Ty} (writable : ty.Writable) : ty.ReadsBack := by
  induction writable with
  | base readable constant =>
    refine ⟨_, readable.spells, fun scope => ?_⟩
    simp [readExpression, constant]
  | arrow _ _ ihSource ihTarget =>
    obtain ⟨source, spellsSource, readsSource⟩ := ihSource
    obtain ⟨target, spellsTarget, readsTarget⟩ := ihTarget
    have special : "->" ∈ specialHeads := by decide
    have spells := Spells.surface (readableName_of_all (by decide) (by decide)).spells
      (.cons spellsSource (.cons spellsTarget .nil)) (.special [source, target] special)
    refine ⟨_, by simpa [render, behind, ← String.append_assoc] using spells, fun scope => ?_⟩
    rw [readExpression_arrow (by simp), readArrow_cons (by simp), readArrow, readsTarget, Except.bind,
      readsSource]
    rfl
  | list _ ih =>
    obtain ⟨element, spells, reads⟩ := ih
    have all := spells_constructor (.inl rfl) (.cons spells .nil)
    refine ⟨_, by simpa [render, behind, ← String.append_assoc] using all, fun scope => ?_⟩
    rw [Term.apply, Term.product, readExpression_list rfl, reads]
    rfl
  | maybe _ ih =>
    obtain ⟨element, spells, reads⟩ := ih
    have all := spells_constructor (.inr (.inl rfl)) (.cons spells .nil)
    refine ⟨_, by simpa [render, behind, ← String.append_assoc] using all, fun scope => ?_⟩
    rw [Term.apply, Term.product, readExpression_maybe rfl, reads]
    rfl
  | either _ _ ihLeft ihRight =>
    obtain ⟨left, spellsLeft, readsLeft⟩ := ihLeft
    obtain ⟨right, spellsRight, readsRight⟩ := ihRight
    have all := spells_constructor (.inr (.inr rfl)) (.cons spellsLeft (.cons spellsRight .nil))
    refine ⟨_, by simpa [render, behind, ← String.append_assoc] using all, fun scope => ?_⟩
    rw [Term.apply, Term.product, readExpression_either rfl, readsLeft, Except.bind, readsRight]
    rfl

/-- **Types are read back from their text,** and no variable is drawn. -/
theorem ofTerm_readTerm_render {ty : Ty} (writable : ty.Writable) :
    ∃ term, readTerm ty.render = .ok term ∧ ∀ supply, ofTerm term supply = .ok (ty, supply) := by
  obtain ⟨term, spells, reads⟩ := writable.readsBack
  refine ⟨term, spells.readTerm_eq_ok, fun supply => ?_⟩
  rw [ofTerm, reads]
  rfl

/-- Base names that look like the arrow, a product, an equation and a constructor, and one that is a literal. -/
theorem ofTerm_readTerm_render_heads :
    let ty := arrow (.list (.base "->"))
      (.either (.arrow (.base "*") (.base "=")) (.arrow (.maybe (.base "List")) (.base "\"a b\"")))
    ty.render = "(-> (List ->) (Either (-> * =) (-> (Maybe List) \"a b\")))" ∧
      ∃ term, readTerm ty.render = .ok term ∧ ∀ supply, ofTerm term supply = .ok (ty, supply) := by
  intro ty
  have symbol : ∀ name ∈ ["->", "*", "=", "List"], Writable (.base name) := by
    intro name member
    simp only [List.mem_cons, List.not_mem_nil, or_false] at member
    rcases member with rfl | rfl | rfl | rfl <;>
      exact .base (readableName_of_all (by decide) (by decide)) (by decide)
  have body : LiteralBody ['a', ' ', 'b'] :=
    .plain (by decide) (by decide) (.plain (by decide) (by decide) (.plain (by decide) (by decide) .nil))
  have literal : Writable (.base "\"a b\"") := .base (.inr ⟨_, body, by decide⟩) (by decide)
  have writable : ty.Writable :=
    .arrow (.list (symbol _ (by simp)))
      (.either (.arrow (symbol _ (by simp)) (symbol _ (by simp)))
        (.arrow (.maybe (symbol _ (by simp))) literal))
  exact ⟨by decide, ofTerm_readTerm_render writable⟩

end Ty

end TermSpace
