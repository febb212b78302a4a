import TermSpace.Proofs.Matching.Exact
import TermSpace.Proofs.Matching.Success

/-!
# When matching goes one way

Matching is meant to bind variables of the pattern and nothing else, and to find bindings under which the
pattern becomes the term.  It does so as long as no variable of the term gets to the side of the pattern.
That happens where a variable of the pattern occurs again and stands for a term with variables in it: this
term is matched in its place, and its variables are bound as if they were the pattern's own.

An answer is therefore as meant exactly if every variable that occurs twice in the pattern stands for a
closed term (`literal_iff_repeated_closed`).  A pattern whose variables occur once, and a closed term, have
no other answers; `(f $x $x)` against `(f $y a)` has one (`find_not_literal`).

That the condition is needed has one reason.  A term with variables that is matched against itself can only
succeed by giving a variable without a term a value that is no closed term (`binds_of_self`).  This variable
is not one of the pattern unless it comes later in the pattern, and there it is itself a variable that is met
when it has such a term; so some variable that is bound is none of the pattern (`exists_stray`).
-/

namespace TermSpace.Matching

set_option autoImplicit false

/-! ## Variables that are met again -/

/-- A variable with one of the names is met when it has a term: at the start, or because it occurs twice. -/
def MetAgain (names : List String) (bindings : Bindings) (name : String) : Prop :=
  name ∈ names ∧ (bindings.contains name ∨ 2 ≤ names.count name)

section MetAgain

variable {first second : List String} {bindings middle : Bindings} {name : String}

theorem MetAgain.left (again : MetAgain first bindings name) :
    MetAgain (first ++ second) bindings name := by
  refine ⟨List.mem_append_left _ again.1, again.2.imp_right fun twice => ?_⟩
  rw [List.count_append]
  omega

theorem MetAgain.right (known : middle.contains name → bindings.contains name ∨ name ∈ first)
    (again : MetAgain second middle name) : MetAgain (first ++ second) bindings name := by
  refine ⟨List.mem_append_right _ again.1, ?_⟩
  have once := List.count_pos_iff.2 again.1
  rw [List.count_append]
  rcases again.2 with bound | twice
  · refine (known bound).imp_right fun before => ?_
    have := List.count_pos_iff.2 before
    omega
  · exact .inr (by omega)

/-- A variable that is met again in two lists of names is so in the first or, once the names in it have a
term, in the second. -/
theorem MetAgain.split (known : bindings.contains name ∨ name ∈ first → middle.contains name)
    (again : MetAgain (first ++ second) bindings name) :
    MetAgain first bindings name ∨ MetAgain second middle name := by
  obtain ⟨member, reason⟩ := again
  rw [List.count_append] at reason
  by_cases later : name ∈ second
  · by_cases before : bindings.contains name ∨ name ∈ first
    · exact .inr ⟨later, .inl (known before)⟩
    · obtain ⟨unbound, absent⟩ := not_or.1 before
      have none := List.count_eq_zero.2 absent
      have twice := reason.resolve_left unbound
      exact .inr ⟨later, .inr (by omega)⟩
  · have here := (List.mem_append.1 member).resolve_right later
    have none := List.count_eq_zero.2 later
    exact .inl ⟨here, reason.imp_right fun twice => by omega⟩

end MetAgain

/-- Bindings that come later give the names that are bound the same images. -/
theorem image_of_extends {earlier later : Bindings} (extends' : later.Extends earlier) {name : String}
    (known : earlier.contains name) : later.image name = earlier.image name := by
  obtain ⟨value, bound⟩ := Option.isSome_iff_exists.1 known
  rw [Bindings.image_of_get? bound, Bindings.image_of_get? (extends' name value bound)]

theorem contains_of_extends {earlier later : Bindings} (extends' : later.Extends earlier)
    {name : String} (known : earlier.contains name) : later.contains name := by
  obtain ⟨value, bound⟩ := Option.isSome_iff_exists.1 known
  exact Option.isSome_iff_exists.2 ⟨value, extends' name value bound⟩

variable {pattern term : Term} {bindings result : Bindings}

/-- A variable without a term takes the term. -/
theorem eq_insert_of_unbound {name : String} (kind : Term.isVariableName name = true)
    (free : bindings.get? name = none)
    (outcome : extend (.atom name) term bindings = .ok (some result)) :
    result = bindings.insert name term := by
  have done := extend_eq_some outcome
  rwa [expose_unbound kind free] at done

/-- A closed pattern has been compared with the term. -/
theorem eq_of_closed (closed : pattern.Closed)
    (outcome : extend pattern term bindings = .ok (some result)) :
    pattern = term ∧ result = bindings := by
  rw [extend_closed bindings pattern term closed] at outcome
  simpa [eq_comm] using outcome

/-- **Every variable of the pattern gets a term.** -/
theorem extend_binds (outcome : extend pattern term bindings = .ok (some result)) :
    ∀ name ∈ pattern.variableOccurrences, result.contains name := by
  refine extend_induction
    (fun pattern _ _ result => ∀ name ∈ pattern.variableOccurrences, result.contains name)
    (fun patterns _ _ result =>
      ∀ name ∈ patterns.flatMap Term.variableOccurrences, result.contains name)
    ?atom ?compound ?nil ?cons outcome
  case atom =>
    intro name term bindings result outcome other occurs
    cases kind : Term.isVariableName name with
    | false => simp [Term.variableOccurrences, kind] at occurs
    | true =>
      obtain rfl : other = name := by simpa [Term.variableOccurrences, kind] using occurs
      cases bound : bindings.get? other with
      | none =>
        rw [eq_insert_of_unbound kind bound outcome]
        simp [Dict.contains, Dict.get?_insert]
      | some value =>
        exact contains_of_extends (extend_keeps outcome) (by simp [Dict.contains, bound])
  case compound =>
    intro operator patterns components bindings result binds
    simpa [Term.variableOccurrences] using binds
  case nil => simp
  case cons =>
    intro pattern component patterns components bindings middle result first rest binds bindsAll
    rw [List.flatMap_cons]
    intro name occurs
    rcases List.mem_append.1 occurs with here | later
    · exact contains_of_extends (extendAll_keeps rest) (binds name here)
    · exact bindsAll name later

/-- The images of the variables of a pattern that has been matched stay what they are. -/
theorem substitute_of_keeps {later : Bindings}
    (outcome : extend pattern term bindings = .ok (some result)) (extends' : later.Extends result) :
    pattern.substitute later = pattern.substitute result :=
  Term.substitute_congr pattern fun name occurs =>
    image_of_extends extends' (extend_binds outcome name occurs)

/-! ## Closed terms are enough -/

/-- No name gets a term but those of the pattern. -/
def BindsOnly (names : List String) (bindings result : Bindings) : Prop :=
  ∀ name, result.contains name → bindings.contains name ∨ name ∈ names

/-- An atom is matched as meant if it is no variable with a term, or one with a closed term. -/
theorem literal_of_closed_atom {name : String}
    (outcome : extend (.atom name) term bindings = .ok (some result))
    (closed : MetAgain (Term.atom name).variableOccurrences bindings name →
      (result.image name).Closed) :
    BindsOnly (Term.atom name).variableOccurrences bindings result ∧
      (Term.atom name).substitute result = term := by
  cases kind : Term.isVariableName name with
  | false =>
    obtain ⟨rfl, rfl⟩ := eq_of_closed (Term.closed_atom.2 kind) outcome
    exact ⟨fun _ known => .inl known, Term.substitute_constant result kind⟩
  | true =>
    rw [Term.substitute_variable result kind]
    cases bound : bindings.get? name with
    | none =>
      obtain rfl := eq_insert_of_unbound kind bound outcome
      refine ⟨fun other known => ?_, ?_⟩
      · rw [Dict.contains, Dict.get?_insert] at known
        split at known
        · next same => exact .inr (by simp [Term.variableOccurrences, ← same, kind])
        · exact .inl known
      · exact Bindings.image_of_get? (by rw [Dict.get?_insert, if_pos rfl])
    | some value =>
      have image : result.image name = value :=
        Bindings.image_of_get? (extend_keeps outcome name value bound)
      have valueClosed : value.Closed := by
        rw [← image]
        exact closed ⟨by simp [Term.variableOccurrences, kind], .inl (by simp [Dict.contains, bound])⟩
      have same : expose bindings (.atom name) = expose bindings value := by
        rw [expose_bound kind bound valueClosed, expose_closed bindings valueClosed]
      rw [extend_congr same] at outcome
      obtain ⟨rfl, rfl⟩ := eq_of_closed valueClosed outcome
      exact ⟨fun _ known => .inl known, image⟩

/-- **A match is as meant** if the variables that are met again stand for closed terms. -/
theorem literal_of_closed (outcome : extend pattern term bindings = .ok (some result))
    (closed : ∀ name, MetAgain pattern.variableOccurrences bindings name →
      (result.image name).Closed) :
    BindsOnly pattern.variableOccurrences bindings result ∧ pattern.substitute result = term := by
  refine extend_induction
    (fun pattern term bindings result =>
      (∀ name, MetAgain pattern.variableOccurrences bindings name → (result.image name).Closed) →
        BindsOnly pattern.variableOccurrences bindings result ∧ pattern.substitute result = term)
    (fun patterns components bindings result =>
      (∀ name, MetAgain (patterns.flatMap Term.variableOccurrences) bindings name →
          (result.image name).Closed) →
        BindsOnly (patterns.flatMap Term.variableOccurrences) bindings result ∧
          patterns.map (Term.substitute result) = components)
    ?atom ?compound ?nil ?cons outcome closed
  case atom => exact fun outcome closed => literal_of_closed_atom outcome (closed _)
  case compound =>
    intro operator patterns components bindings result ih closed
    simp only [Term.variableOccurrences, Term.variableOccurrencesAll_eq_flatMap, Term.substitute,
      Term.substituteAll_eq_map, Term.compound.injEq, true_and] at closed ⊢
    exact ih closed
  case nil => exact fun bindings _ => ⟨fun _ known => .inl known, rfl⟩
  case cons =>
    intro pattern component patterns components bindings middle result first rest ih ihAll closed
    rw [List.flatMap_cons] at closed ⊢
    have keeps := extendAll_keeps rest
    obtain ⟨only, fits⟩ := ih fun name again => by
      rw [← image_of_extends keeps (extend_binds first name again.1)]
      exact closed name again.left
    obtain ⟨onlyLater, fitsLater⟩ := ihAll fun name again => closed name (again.right (only name))
    refine ⟨fun name known => ?_, ?_⟩
    · rcases onlyLater name known with before | later
      · exact (only name before).imp_right fun here => List.mem_append_left _ here
      · exact .inr (List.mem_append_right _ later)
    · rw [List.map_cons, fitsLater, substitute_of_keeps first keeps, fits]

/-! ## Closed terms are needed -/

/-- A name has got a term, and one that is not closed. -/
def BindsOpen (bindings result : Bindings) (name : String) : Prop :=
  ¬ bindings.contains name ∧ result.contains name ∧ ¬ (result.image name).Closed

theorem BindsOpen.later {name : String} {later : Bindings} (binds : BindsOpen bindings result name)
    (extends' : later.Extends result) : BindsOpen bindings later name :=
  ⟨binds.1, contains_of_extends extends' binds.2.1, by
    rw [image_of_extends extends' binds.2.1]
    exact binds.2.2⟩

/-- A variable that is matched against a variable has found a name without a term to bind. -/
theorem binds_of_variable {name other : String} (kind : Term.isVariableName other = true)
    (outcome : extend (.atom name) (.atom other) bindings = .ok (some result)) :
    ∃ free, BindsOpen bindings result free := by
  have done := extend_eq_some outcome
  split at done
  · next free exposed =>
    have unbound := unbound_of_expose exposed
    have bound : result.get? free = some (.atom other) := by
      rw [done, Dict.get?_insert, if_pos rfl]
    refine ⟨free, by simp [Dict.contains, unbound], by simp [Dict.contains, bound], ?_⟩
    rw [Bindings.image_of_get? bound, Term.closed_atom, kind]
    simp
  · next shown exposed =>
    have constant := constant_of_expose exposed
    cases done.1
    rw [kind] at constant
    cases constant
  · obtain ⟨_, impossible, _⟩ := done
    cases impossible
  · exact done.elim

/-- **A term with variables that is matched against itself** gives some name a term that is not closed. -/
theorem binds_of_self (notClosed : ¬ term.Closed)
    (outcome : extend term term bindings = .ok (some result)) :
    ∃ free, BindsOpen bindings result free := by
  refine extend_induction
    (fun pattern term bindings result =>
      pattern = term → ¬ pattern.Closed → ∃ free, BindsOpen bindings result free)
    (fun patterns components bindings result =>
      patterns = components → (∃ pattern ∈ patterns, ¬ pattern.Closed) →
        ∃ free, BindsOpen bindings result free)
    ?atom ?compound ?nil ?cons outcome rfl notClosed
  case atom =>
    rintro name _ bindings result outcome rfl notClosed
    rw [Term.closed_atom, Bool.not_eq_false] at notClosed
    exact binds_of_variable notClosed outcome
  case compound =>
    intro operator patterns components bindings result ih same notClosed
    rw [Term.closed_compound] at notClosed
    exact ih (by injection same) (by simpa using notClosed)
  case nil => simp
  case cons =>
    intro pattern component patterns components bindings middle result first rest ih ihAll same some'
    obtain ⟨rfl, rfl⟩ := List.cons.inj same
    by_cases closed : pattern.Closed
    · obtain ⟨_, rfl⟩ := eq_of_closed closed first
      obtain ⟨open', member, notClosed⟩ := some'
      rcases List.mem_cons.1 member with rfl | later
      · exact absurd closed notClosed
      · exact ihAll rfl ⟨open', later, notClosed⟩
    · obtain ⟨free, binds⟩ := ih rfl closed
      exact ⟨free, binds.later (extendAll_keeps rest)⟩

/-- A name that is none of the pattern's has got a term. -/
def Stray (names : List String) (bindings result : Bindings) : Prop :=
  ∃ free, BindsOpen bindings result free ∧ free ∉ names

/-- A variable that has a term with variables and is matched against this term leads a name astray. -/
theorem stray_of_bound {name : String} {value : Term} (bound : bindings.get? name = some value)
    (kind : Term.isVariableName name = true) (notClosed : ¬ value.Closed)
    (outcome : extend (.atom name) value bindings = .ok (some result)) :
    Stray (Term.atom name).variableOccurrences bindings result := by
  obtain ⟨free, binds⟩ : ∃ free, BindsOpen bindings result free := by
    cases value with
    | atom other =>
      rw [Term.closed_atom, Bool.not_eq_false] at notClosed
      exact binds_of_variable notClosed outcome
    | compound operator components =>
      have same : expose bindings (.atom name) = expose bindings (.compound operator components) := by
        rw [expose, if_pos kind]
        cases bindings.size <;> simp [follow, bound, expose]
      rw [extend_congr same] at outcome
      exact binds_of_self notClosed outcome
  refine ⟨free, binds, fun occurs => ?_⟩
  obtain rfl : free = name := by simpa [Term.variableOccurrences, kind] using occurs
  exact binds.1 (by simp [Dict.contains, bound])

/-- **Where a match turns the pattern into the term,** a variable that is met again and stands for no closed
term leads some name astray. -/
theorem exists_stray (outcome : extend pattern term bindings = .ok (some result))
    (fits : pattern.substitute result = term) {name : String}
    (again : MetAgain pattern.variableOccurrences bindings name)
    (notClosed : ¬ (result.image name).Closed) :
    Stray pattern.variableOccurrences bindings result := by
  refine extend_induction
    (fun pattern term bindings result => pattern.substitute result = term →
      ∀ name, MetAgain pattern.variableOccurrences bindings name → ¬ (result.image name).Closed →
        Stray pattern.variableOccurrences bindings result)
    (fun patterns components bindings result =>
      patterns.map (Term.substitute result) = components →
        ∀ name, MetAgain (patterns.flatMap Term.variableOccurrences) bindings name →
          ¬ (result.image name).Closed →
            Stray (patterns.flatMap Term.variableOccurrences) bindings result)
    ?atom ?compound ?nil ?cons outcome fits name again notClosed
  case atom =>
    intro name term bindings result outcome fits other again notClosed
    obtain ⟨occurs, reason⟩ := again
    cases kind : Term.isVariableName name with
    | false => simp [Term.variableOccurrences, kind] at occurs
    | true =>
      have once : (Term.atom name).variableOccurrences = [name] := by
        simp [Term.variableOccurrences, kind]
      obtain rfl : other = name := by simpa [once] using occurs
      have known : bindings.contains other := by simpa [once] using reason
      obtain ⟨value, bound⟩ := Option.isSome_iff_exists.1 known
      have image : result.image other = value :=
        Bindings.image_of_get? (extend_keeps outcome other value bound)
      rw [Term.substitute_variable result kind, image] at fits
      subst fits
      exact stray_of_bound bound kind (image ▸ notClosed) outcome
  case compound =>
    intro operator patterns components bindings result ih
    simpa only [Term.variableOccurrences, Term.variableOccurrencesAll_eq_flatMap, Term.substitute,
      Term.substituteAll_eq_map, Term.compound.injEq, true_and] using ih
  case nil => simp [MetAgain]
  case cons =>
    intro pattern component patterns components bindings middle result first rest ih ihAll fits name
      again notClosed
    rw [List.flatMap_cons] at again ⊢
    rw [List.map_cons, List.cons.injEq] at fits
    have keepsFirst := extend_keeps first
    have keeps := extendAll_keeps rest
    have binds := extend_binds first
    -- a name led astray in the rest is new there, hence none of the first pattern's either
    have ofRest : Stray (patterns.flatMap Term.variableOccurrences) middle result →
        Stray (pattern.variableOccurrences ++ patterns.flatMap Term.variableOccurrences)
          bindings result := by
      rintro ⟨free, new, absent⟩
      refine ⟨free, ⟨fun known => new.1 (contains_of_extends keepsFirst known), new.2⟩, ?_⟩
      rw [List.mem_append, not_or]
      exact ⟨fun occurs => new.1 (binds free occurs), absent⟩
    have knownThen : bindings.contains name ∨ name ∈ pattern.variableOccurrences →
        middle.contains name := fun known => known.elim (contains_of_extends keepsFirst) (binds name)
    rcases again.split knownThen with here | later
    · rw [image_of_extends keeps (binds name here.1)] at notClosed
      obtain ⟨free, new, absent⟩ :=
        ih ((substitute_of_keeps first keeps).symm.trans fits.1) name here notClosed
      -- if it comes later in the pattern, it is met there with its open term
      by_cases occurs : free ∈ patterns.flatMap Term.variableOccurrences
      · exact ofRest (ihAll fits.2 free ⟨occurs, .inl new.2.1⟩ (new.later keeps).2.2)
      · exact ⟨free, new.later keeps, by simp only [List.mem_append, absent, occurs, or_self,
          not_false_eq_true]⟩
    · exact ofRest (ihAll fits.2 name later notClosed)

/-! ## The statement -/

/-- Bindings that a match is meant to find: only variables of the pattern have a term, and under them the
pattern becomes the term. -/
def Literal (pattern term : Term) (bindings : Bindings) : Prop :=
  (∀ name, bindings.contains name → name ∈ pattern.variableNames) ∧
    pattern.substitute bindings = term

/-- **A match is as meant exactly if the variables that occur again stand for closed terms.** -/
theorem literal_iff_repeated_closed {pattern term : Term} {bindings : Bindings}
    (found : find pattern term = .ok (some bindings)) :
    Literal pattern term bindings ↔
      ∀ name, 2 ≤ pattern.variableOccurrences.count name → (bindings.image name).Closed := by
  have again : ∀ name, MetAgain pattern.variableOccurrences ∅ name ↔
      2 ≤ pattern.variableOccurrences.count name := by
    intro name
    have member : 2 ≤ pattern.variableOccurrences.count name →
        name ∈ pattern.variableOccurrences := fun twice => List.count_pos_iff.1 (by omega)
    simpa [MetAgain, Dict.contains] using member
  constructor
  · rintro ⟨only, fits⟩ name twice
    by_contra notClosed
    obtain ⟨free, binds, absent⟩ := exists_stray found fits ((again name).2 twice) notClosed
    exact absent (Term.mem_variableNames.1 (only free binds.2.1))
  · intro closed
    obtain ⟨only, fits⟩ := literal_of_closed found fun name met => closed name ((again name).1 met)
    refine ⟨fun name known => Term.mem_variableNames.2 ?_, fits⟩
    exact (only name known).resolve_left (by simp [Dict.contains])

/-- Matching `(f $x $x $y)` against `(f a a $x)` is as meant: `$x` is repeated and stands for a closed term,
`$y` stands for a variable and is not repeated. -/
theorem literal_iff_repeated_closed_open :
    find (.compound "f" [.atom "$x", .atom "$x", .atom "$y"])
        (.compound "f" [.atom "a", .atom "a", .atom "$x"]) =
      .ok (some (Dict.insert (Dict.insert ∅ "$x" (.atom "a")) "$y" (.atom "$x"))) ∧
    Literal (.compound "f" [.atom "$x", .atom "$x", .atom "$y"])
      (.compound "f" [.atom "a", .atom "a", .atom "$x"])
      (Dict.insert (Dict.insert ∅ "$x" (.atom "a")) "$y" (.atom "$x")) := by
  refine ⟨rfl, (literal_iff_repeated_closed rfl).2 fun name twice => ?_⟩
  have occurs : name ∈ ["$x", "$x", "$y"] := List.count_pos_iff.1 (Nat.zero_lt_of_lt twice)
  obtain rfl | rfl : name = "$x" ∨ name = "$y" := by simpa using occurs
  · decide
  · exact absurd twice (by decide)

/-- **A variable of the term is bound.**  Matching `(f $x $x)` against `(f $y a)` finds bindings of `$x` and
of `$y`, which is no variable of the pattern, and under which the pattern becomes `(f $y $y)`. -/
theorem find_not_literal :
    ¬ ∀ (pattern term : Term) (bindings : Bindings), find pattern term = .ok (some bindings) →
      Literal pattern term bindings := by
  intro always
  have literal := always (.compound "f" [.atom "$x", .atom "$x"])
    (.compound "f" [.atom "$y", .atom "a"])
    (Dict.insert (Dict.insert ∅ "$x" (.atom "$y")) "$y" (.atom "a")) rfl
  exact absurd literal.2 (by decide)

end TermSpace.Matching
