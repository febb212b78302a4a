import TermSpace.Proofs.Reader.Spelling
import TermSpace.Proofs.Term.Parts
import TermSpace.Term.Render

/-!
# Canonical text read back

Canonical text shows names as they are.  It can be read back only if every name is one token, and if every
compound without components has an operator that a list of one token gives it back as: a list `(f)` of any
other operator is an application.  Terms of this kind are *readable* (`Readable`).

The canonical text of a readable term spells the term (`Readable.spells`), by the canonical rule where there are
components and by the surface rule where there are none.  Conversely the tokens of a text have the names of
readable atoms, and every rule of the grammar makes a readable term out of readable ones (`Derives.readable`).
So the terms that their canonical text is read back as are the readable ones, and they are all the terms that
are read from any text (`readTerm_render`).
-/

namespace TermSpace.Reader

set_option autoImplicit false

/-! ## Readable terms -/

/-- **Readable terms.** Every name is one token, and the operator of a compound without components is `*` or a
special head. -/
inductive Readable : Term → Prop where
  | atom {name : String} (readable : ReadableName name) : Readable (.atom name)
  | compound {operator : String} {components : List Term} (readable : ReadableName operator)
      (each : ∀ component ∈ components, Readable component)
      (bare : components = [] → operator = "*" ∨ operator ∈ specialHeads) :
      Readable (.compound operator components)

/-! ## What canonical text is read back as -/

theorem renderAll_eq_behind (components : List Term) :
    Term.renderAll components = behind ", " (components.map Term.render) := by
  induction components with
  | nil => rfl
  | cons component rest ih => rw [Term.renderAll, ih, List.map_cons, behind]

/-- **The canonical text of a readable term spells the term.** -/
theorem Readable.spells {term : Term} (readable : Readable term) : Spells term.render term := by
  induction readable with
  | atom readable => exact readable.spells
  | compound readable _ bare ih =>
    rw [Term.render, renderAll_eq_behind]
    exact .compound readable bare (List.forall₂_map_left_iff.2 (List.forall₂_same.2 ih))

/-! ## What any text is read as -/

/-- The tokens of a text have readable names. -/
theorem Tokenizes.readableName {characters : List Char} {tokens : List Token}
    (tokenizes : Tokenizes characters tokens) :
    ∀ token ∈ tokens, ∀ name, Names token name → ReadableName name := by
  intro token member name names
  have complete := tokenizes.complete token member
  cases names with
  | symbol => exact .inl complete
  | literal => exact .inr complete

/-- A product of readable terms is readable. -/
theorem readable_product {arguments : List Term} (each : ∀ argument ∈ arguments, Readable argument) :
    Readable (.product arguments) := by
  have operator : IsSymbol Term.productOperator.toList := IsSymbol.single (show _ = true by decide)
  exact .compound (.inl operator) each fun _ => .inl rfl

/-- What a readable head makes of readable arguments is readable. -/
theorem Composes.readable {head term : Term} {arguments : List Term}
    (composes : Composes head arguments term) (readable : Readable head)
    (each : ∀ argument ∈ arguments, Readable argument) : Readable term := by
  cases composes with
  | special arguments special =>
    cases readable with
    | atom readable => exact .compound readable each fun _ => .inr special
  | product arguments => exact readable_product each
  | application arguments ordinary =>
    have operator : IsSymbol Term.applyOperator.toList := IsSymbol.single (show _ = true by decide)
    refine .compound (.inl operator) ?_ (by simp)
    simpa using ⟨readable, readable_product each⟩

/-- **Tokens with readable names derive readable terms.** -/
theorem Derives.readable {tokens : List Token} {term : Term} (derives : Derives tokens term) :
    (∀ token ∈ tokens, ∀ name, Names token name → ReadableName name) → Readable term := by
  induction derives with
  | atom names =>
    intro readable
    exact .atom (readable _ (by simp) _ names)
  | empty =>
    intro _
    exact readable_product (by simp)
  | @canonical token name parts names nonempty _ ih =>
    intro readable
    refine .compound (readable token (by simp) name names) ?_ (by simp [nonempty])
    refine List.forall_mem_map.2 fun part member => ih part member fun token inside => ?_
    exact readable token (by
      simp only [behindCommas, List.mem_cons, List.mem_append, List.mem_flatMap]
      exact .inr (.inr (.inl ⟨part, member, .inr inside⟩)))
  | @surface first head parts term _ _ composes ihHead ih =>
    intro readable
    refine composes.readable (ihHead fun token inside => ?_) ?_
    · exact readable token (by simp [inside])
    refine List.forall_mem_map.2 fun part member => ih part member fun token inside => ?_
    exact readable token (by
      simp only [juxtaposed, List.mem_cons, List.mem_append, List.mem_flatMap]
      exact .inr (.inr (.inl ⟨part, member, inside⟩)))

/-! ## Reading back -/

/-- What is read from any text is readable. -/
theorem readable_of_readTerm {text : String} {term : Term} (read : readTerm text = .ok term) :
    Readable term := by
  obtain ⟨tokens, tokenizes, derives⟩ := readTerm_eq_ok_iff.1 read
  exact derives.readable tokenizes.readableName

/-- The canonical text of a readable term is read back as the term. -/
theorem Readable.readTerm_eq_ok {term : Term} (readable : Readable term) :
    readTerm term.render = .ok term := readable.spells.readTerm_eq_ok

/-- **Canonical text is read back on the readable terms and on no others.** All terms that are read from any
text are among these, so that the canonical text of what has been read is read as the same term again. -/
theorem readTerm_render :
    (∀ term : Term, readTerm term.render = .ok term ↔ Readable term) ∧
    ∀ (text : String) (term : Term), readTerm text = .ok term →
      Readable term ∧ readTerm term.render = .ok term := by
  refine ⟨fun term => ⟨readable_of_readTerm, Readable.readTerm_eq_ok⟩, fun text term read => ?_⟩
  have readable := readable_of_readTerm read
  exact ⟨readable, readable.readTerm_eq_ok⟩

/-- An equation with a literal is read from its surface text, and then from its canonical text. -/
theorem readTerm_render_equation :
    readTerm "(= $x \"a b\")" = .ok (.compound "=" [.atom "$x", .atom "\"a b\""]) ∧
    readTerm "(=, $x, \"a b\")" = .ok (.compound "=" [.atom "$x", .atom "\"a b\""]) := by
  have read : readTerm "(= $x \"a b\")" = .ok (.compound "=" [.atom "$x", .atom "\"a b\""]) := rfl
  have shown : (Term.compound "=" [.atom "$x", .atom "\"a b\""]).render = "(=, $x, \"a b\")" := by
    decide
  obtain ⟨_, again⟩ := readTerm_render.2 _ _ read
  rw [shown] at again
  exact ⟨read, again⟩

end TermSpace.Reader
