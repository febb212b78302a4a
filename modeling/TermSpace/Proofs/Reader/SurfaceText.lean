import TermSpace.Proofs.Reader.RoundTrip

/-!
# Surface text read back

Surface text writes an application by putting the head in front of the arguments.  A list of this form means what
its head makes of it, and that is not always an application: a special head becomes the operator of a compound,
and `*` makes a product.  Applications of such heads can be written canonically, and then their surface text
means something else.

Surface text is read back, and nothing but these applications changes: each is read as the compound of its head,
wherever it stands in the term and whatever is in its arguments (`readTerm_renderSurface`).  The reason is that a
head is read back as an atom only if it is one, so that the other applications stay what they are
(`reread_apply`).
-/

namespace TermSpace

set_option autoImplicit false

/-! ## Applications that surface text gives another meaning -/

namespace Term

/-- A head that makes something else than an application of a surface list. -/
def TakesOver (head : String) : Prop := head ∈ Reader.specialHeads ∨ head = productOperator

instance (head : String) : Decidable (TakesOver head) := inferInstanceAs (Decidable (_ ∨ _))

/-- An application whose head takes over. -/
inductive TakenOver : Term → Prop where
  | apply {head : String} (takesOver : TakesOver head) (arguments : List Term) :
      TakenOver (.apply (.atom head) arguments)

mutual

/-- **What surface text is read back as:** every application whose head takes over becomes the compound of the
head over the arguments. -/
def reread : Term → Term
  | .atom name => .atom name
  | .compound operator components =>
    match components with
    | [.atom head, .compound inner arguments] =>
      if operator = applyOperator ∧ inner = productOperator ∧ TakesOver head then
        .compound head (rereadAll arguments)
      else .compound operator (rereadAll [.atom head, .compound inner arguments])
    | components => .compound operator (rereadAll components)

/-- What the components are read back as. -/
def rereadAll : List Term → List Term
  | [] => []
  | component :: rest => reread component :: rereadAll rest

end

theorem rereadAll_eq_map (components : List Term) : rereadAll components = components.map reread := by
  induction components with
  | nil => rfl
  | cons component rest ih => rw [rereadAll, ih, List.map_cons]

theorem reread_takenOver {head : String} (takesOver : TakesOver head) (arguments : List Term) :
    (apply (.atom head) arguments).reread = .compound head (arguments.map reread) := by
  rw [apply, product, reread, if_pos ⟨rfl, rfl, takesOver⟩, rereadAll_eq_map]

/-- The operator of a compound that is taken over, and its two components. -/
theorem takenOver_iff {operator : String} {components : List Term} :
    TakenOver (.compound operator components) ↔
      operator = applyOperator ∧ ∃ head arguments, components = [.atom head, .product arguments] ∧ TakesOver head := by
  constructor
  · generalize same : compound operator components = term
    rintro ⟨takesOver, arguments⟩
    cases same
    exact ⟨rfl, _, arguments, rfl, takesOver⟩
  · rintro ⟨rfl, head, arguments, rfl, takesOver⟩
    exact .apply takesOver arguments

/-- Every other compound is read back as it is, its components apart. -/
theorem reread_compound {operator : String} {components : List Term}
    (stays : ¬ TakenOver (.compound operator components)) :
    (compound operator components).reread = .compound operator (components.map reread) := by
  unfold reread
  split
  · next head inner arguments =>
    split
    · next here =>
      obtain ⟨rfl, rfl, takesOver⟩ := here
      exact absurd (.apply takesOver arguments) stays
    · rw [rereadAll_eq_map]
  · rw [rereadAll_eq_map]

/-- A product is read back as one. -/
theorem reread_product (arguments : List Term) :
    (product arguments).reread = .product (arguments.map reread) :=
  reread_compound fun taken => absurd (takenOver_iff.1 taken).1 (by decide)

/-- A compound is read back as a compound. -/
theorem exists_reread_compound (operator : String) (components : List Term) :
    ∃ other others, (compound operator components).reread = .compound other others := by
  by_cases taken : TakenOver (.compound operator components)
  · cases taken with
    | apply takesOver arguments => exact ⟨_, _, reread_takenOver takesOver arguments⟩
  · exact ⟨_, _, reread_compound taken⟩

/-- An application of another head is read back as one. -/
theorem reread_application {head : Term} (ordinary : ∀ name, head = .atom name → ¬ TakesOver name)
    (arguments : List Term) : (apply head arguments).reread = .apply head.reread (arguments.map reread) := by
  have stays : ¬ TakenOver (apply head arguments) := by
    intro taken
    obtain ⟨-, name, _, same, takesOver⟩ := takenOver_iff.1 taken
    cases same
    exact ordinary name rfl takesOver
  rw [apply, reread_compound stays, List.map_cons, List.map_singleton, reread_product]
  rfl

/-- **An application is read back** as what its head makes of its arguments. -/
theorem composes_reread (head : Term) (arguments : List Term) :
    Reader.Composes head.reread (arguments.map reread) (apply head arguments).reread := by
  cases head with
  | atom name =>
    have same : (atom name).reread = .atom name := by rw [reread]
    by_cases takesOver : TakesOver name
    · rw [reread_takenOver takesOver, same]
      rcases takesOver with special | rfl
      · exact .special _ special
      · exact .product _
    · rw [reread_application (by rintro _ ⟨⟩; exact takesOver), same]
      refine .application _ ?_
      rintro _ ⟨⟩
      exact not_or.1 takesOver
  | compound operator components =>
    obtain ⟨other, others, same⟩ := exists_reread_compound operator components
    rw [reread_application (by simp), same]
    exact .application _ nofun

/-- Nothing changes in a term if no application in it is taken over. -/
theorem reread_eq_self_iff {term : Term} : term.reread = term ↔ ∀ part, part.Part term → ¬ TakenOver part := by
  induction term with
  | atom name =>
    simp only [reread, Part.atom_iff, forall_eq, true_iff]
    rintro ⟨⟩
  | compound operator components ih =>
    by_cases taken : TakenOver (.compound operator components)
    · refine iff_of_false (fun same => ?_) fun none => none _ (.whole _) taken
      obtain ⟨rfl, head, arguments, rfl, takesOver⟩ := takenOver_iff.1 taken
      have changed := reread_takenOver takesOver arguments
      rw [apply, same, compound.injEq] at changed
      rw [← changed.1] at takesOver
      exact absurd takesOver (by decide)
    · have each : components.map reread = components ↔
          ∀ component ∈ components, ∀ part, part.Part component → ¬ TakenOver part := by
        nth_rewrite 2 [← List.map_id components]
        exact List.map_inj_left.trans (forall₂_congr ih)
      rw [reread_compound taken, compound.injEq, eq_self, true_and, each]
      constructor
      · rintro inside part within
        obtain rfl | ⟨component, member, deeper⟩ := Part.compound_iff.1 within
        · exact taken
        · exact inside component member part deeper
      · exact fun everywhere component member part deeper => everywhere part (.inside member deeper)

end Term

/-! ## Surface text -/

namespace Reader

theorem renderSurfaceAll_eq_behind (separator : String) (components : List Term) :
    Term.renderSurfaceAll separator components = behind separator (components.map Term.renderSurface) := by
  induction components with
  | nil => rfl
  | cons component rest ih => rw [Term.renderSurfaceAll, ih, List.map_cons, behind]

theorem renderSurface_apply (head : Term) (arguments : List Term) :
    (Term.apply head arguments).renderSurface =
      "(" ++ head.renderSurface ++ behind " " (arguments.map Term.renderSurface) ++ ")" := by
  rw [Term.apply, Term.product, Term.renderSurface, if_pos ⟨rfl, rfl⟩, renderSurfaceAll_eq_behind]

theorem renderSurface_compound {operator : String} {components : List Term}
    (other : ∀ head arguments, Term.compound operator components ≠ .apply head arguments) :
    (Term.compound operator components).renderSurface =
      "(" ++ operator ++ behind ", " (components.map Term.renderSurface) ++ ")" := by
  unfold Term.renderSurface
  split
  · next head inner arguments =>
    split
    · next here =>
      obtain ⟨rfl, rfl⟩ := here
      exact absurd rfl (other head arguments)
    · rw [renderSurfaceAll_eq_behind]
  · rw [renderSurfaceAll_eq_behind]

/-- **The surface text of a readable term spells what it is read back as,** and so do those of its components. -/
theorem Readable.spells_renderSurface {term : Term} (readable : Readable term) :
    Spells term.renderSurface term.reread ∧
      ∀ component ∈ term.components, Spells component.renderSurface component.reread := by
  induction readable with
  | atom readable =>
    rw [Term.renderSurface, Term.reread]
    exact ⟨readable.spells, by simp [Term.components]⟩
  | @compound operator components readable _ bare ih =>
    have spelled : ∀ terms : List Term, (∀ term ∈ terms, Spells term.renderSurface term.reread) →
        List.Forall₂ Spells (terms.map Term.renderSurface) (terms.map Term.reread) := by
      intro terms each
      rw [List.forall₂_map_left_iff, List.forall₂_map_right_iff, List.forall₂_same]
      exact each
    refine ⟨?_, fun component member => (ih component member).1⟩
    by_cases application : ∃ head arguments, Term.compound operator components = .apply head arguments
    · obtain ⟨head, arguments, same⟩ := application
      cases same
      have heads := (ih head (by simp)).1
      have each := (ih (.product arguments) (by simp)).2
      have spells := Spells.surface heads (spelled arguments each) (Term.composes_reread head arguments)
      rwa [← renderSurface_apply] at spells
    · have other : ∀ head arguments, Term.compound operator components ≠ .apply head arguments :=
        fun head arguments same => application ⟨head, arguments, same⟩
      have stays : ¬ Term.TakenOver (.compound operator components) := by
        intro taken
        obtain ⟨rfl, head, arguments, rfl, -⟩ := Term.takenOver_iff.1 taken
        exact other _ _ rfl
      rw [renderSurface_compound other, Term.reread_compound stays]
      refine .compound readable (fun none => bare (List.map_eq_nil_iff.1 none)) ?_
      exact spelled components fun component member => (ih component member).1

/-- **Surface text is read back** with every application whose head takes over as the compound of the head, and
all else as it was.  So it is read as the same term exactly if there is no such application in the term. -/
theorem readTerm_renderSurface {text : String} {term : Term} (read : readTerm text = .ok term) :
    readTerm term.renderSurface = .ok term.reread ∧
      (term.reread = term ↔ ∀ part, part.Part term → ¬ Term.TakenOver part) :=
  ⟨(readable_of_readTerm read).spells_renderSurface.1.readTerm_eq_ok, Term.reread_eq_self_iff⟩

/-- An equation that is written as an application, with a product written so inside. -/
theorem readTerm_renderSurface_equation :
    let written := Term.apply (.atom "=") [.apply (.atom "*") [.atom "a"], .compound "g" [.atom "c"]]
    readTerm "(^, =, (*, (^, *, (*, a)), (g, c)))" = .ok written ∧
    written.renderSurface = "(= (* a) (g, c))" ∧
    readTerm "(= (* a) (g, c))" = .ok (.compound "=" [.product [.atom "a"], .compound "g" [.atom "c"]]) := by
  intro written
  have read : readTerm "(^, =, (*, (^, *, (*, a)), (g, c)))" = .ok written := rfl
  have shown : written.renderSurface = "(= (* a) (g, c))" := by decide
  have again := (readTerm_renderSurface read).1
  rw [shown] at again
  exact ⟨read, shown, again⟩

end Reader

end TermSpace
