import TermSpace.Matching
import TermSpace.Proofs.Term.Substitution

/-!
# Matching is exact

Matching a pattern against a closed term, under bindings to closed terms, finds the bindings under which
the pattern becomes the term: it always comes to an end, it fails only where no substitution does it, and
the bindings that it finds are the only ones on the variables of the pattern.  The same holds for any
term, closed or not, when nothing is bound at first and no variable occurs twice in the pattern
(`matching_exact`).

What both cases have in common is that a variable which is met again stands for a closed term
(`Tame`).  Under that condition nothing is ever looked up through a chain of bindings.

The components of a compound are matched from left to right.  The invariant of that run relates the
bindings found so far to *every* possible solution: a substitution that solves the components before also
gives the image of each name bound so far (`Solution.respects`), so that a failure further right is a
failure of all substitutions.
-/

namespace TermSpace

set_option autoImplicit false

/-- A substitution respects bindings if it gives each bound name its term.  A name may do without an entry
if its term is the name itself. -/
def Bindings.Respects (other bindings : Bindings) : Prop :=
  ∀ name value, bindings.get? name = some value → other.image name = value

theorem Bindings.Extends.respects {later earlier : Bindings} (extends' : later.Extends earlier) :
    later.Respects earlier :=
  fun name value bound => Bindings.image_of_get? (extends' name value bound)

namespace Matching

/-! ## What a pattern stands for -/

theorem expose_constant (bindings : Bindings) {name : String}
    (kind : Term.isVariableName name = false) :
    expose bindings (.atom name) = .ok (.shape (.atom name)) := by
  simp [expose, kind]

theorem expose_unbound {bindings : Bindings} {name : String}
    (kind : Term.isVariableName name = true) (free : bindings.get? name = none) :
    expose bindings (.atom name) = .ok (.unbound name) := by
  rw [expose, if_pos kind]
  cases bindings.size <;> rw [follow, free]

/-- A closed term stands for itself. -/
theorem expose_closed (bindings : Bindings) {term : Term} (closed : term.Closed) :
    expose bindings term = .ok (.shape term) := by
  cases term with
  | atom name => exact expose_constant bindings (Term.closed_atom.1 closed)
  | compound operator components => rfl

/-- A variable bound to a closed term stands for it. -/
theorem expose_bound {bindings : Bindings} {name : String} {value : Term}
    (kind : Term.isVariableName name = true) (bound : bindings.get? name = some value)
    (closed : value.Closed) : expose bindings (.atom name) = .ok (.shape value) := by
  rw [expose, if_pos kind]
  cases value with
  | atom next =>
    have constant := Term.closed_atom.1 closed
    cases bindings.size <;> simp [follow, bound, constant]
  | compound operator components =>
    cases bindings.size <;> simp [follow, bound]

/-- Matching sees a pattern only through what it stands for. -/
theorem extend_congr {first second : Term} {bindings : Bindings}
    (same : expose bindings first = expose bindings second) (term : Term) :
    extend first term bindings = extend second term bindings := by
  cases term <;> simp only [extend, same]

/-! ## Closed patterns -/

mutual

/-- A closed pattern matches itself and nothing else, and binds nothing. -/
theorem extend_closed (bindings : Bindings) : ∀ (pattern term : Term), pattern.Closed →
    extend pattern term bindings = .ok (if pattern = term then some bindings else none)
  | .atom name, .atom other, closed => by
    simp [extend, expose_closed bindings closed]
  | .compound operator patterns, .atom name, closed => by
    simp [extend, expose_closed bindings closed]
  | .atom name, .compound operator components, closed => by
    simp [extend, expose_closed bindings closed]
  | .compound other patterns, .compound operator components, closed => by
    simp only [extend, expose_closed bindings closed, Term.compound.injEq]
    by_cases sameOperator : other = operator
    · by_cases sameLength : patterns.length = components.length
      · rw [if_pos ⟨sameOperator, sameLength⟩,
          extendAll_closed bindings patterns components sameLength (Term.closed_compound.1 closed)]
        simp [sameOperator]
      · have apart : patterns ≠ components := fun same => sameLength (same ▸ rfl)
        simp [sameLength, apart]
    · simp [sameOperator]

/-- Closed patterns match themselves and nothing else. -/
theorem extendAll_closed (bindings : Bindings) : ∀ (patterns components : List Term),
    patterns.length = components.length → (∀ pattern ∈ patterns, pattern.Closed) →
    extendAll patterns components bindings =
      .ok (if patterns = components then some bindings else none)
  | [], [], _, _ => by simp [extendAll]
  | [], _ :: _, lengths, _ => by simp at lengths
  | _ :: _, [], lengths, _ => by simp at lengths
  | pattern :: patterns, component :: components, lengths, closed => by
    rw [extendAll, extend_closed bindings pattern component (closed pattern List.mem_cons_self)]
    by_cases same : pattern = component
    · have rest := extendAll_closed bindings patterns components (by simpa using lengths)
        fun later member => closed later (List.mem_cons_of_mem _ member)
      simp [same, rest]
    · simp [same]

end

/-! ## Answers -/

/-- Bindings as the answer to the question which extensions of the initial ones fit, where fitting is a
matter of the given names only. -/
structure Solution (names : List String) (Fits : Bindings → Prop) (initial solution : Bindings) :
    Prop where
  keeps : solution.Extends initial
  binds : ∀ name, solution.contains name ↔ initial.contains name ∨ name ∈ names
  fits : Fits solution
  unique : ∀ other : Bindings, other.Respects initial → Fits other →
    ∀ name ∈ names, other.image name = solution.image name

/-- What an outcome of matching has to be: bindings that are the solution, or a failure where there is
none. -/
def Answers (names : List String) (Fits : Bindings → Prop) (initial : Bindings) :
    Except MatchError (Option Bindings) → Prop
  | .ok (some solution) => Solution names Fits initial solution
  | .ok none => ∀ other : Bindings, other.Respects initial → ¬ Fits other
  | .error _ => False

namespace Solution

variable {names : List String} {Fits : Bindings → Prop} {initial solution : Bindings}

/-- **The invariant of a run.** A substitution that fits gives each name bound so far its term. -/
theorem respects (found : Solution names Fits initial solution) {other : Bindings}
    (otherRespects : other.Respects initial) (otherFits : Fits other) :
    other.Respects solution := by
  intro name value bound
  have known : solution.contains name := by simp [Dict.contains, bound]
  rcases (found.binds name).1 known with earlier | new
  · obtain ⟨term, boundEarlier⟩ := Option.isSome_iff_exists.1 earlier
    have sameTerm := found.keeps name term boundEarlier
    rw [bound] at sameTerm
    cases sameTerm
    exact otherRespects name value boundEarlier
  · rw [found.unique other otherRespects otherFits name new, Bindings.image_of_get? bound]

/-- Later bindings keep the images of the names that are bound. -/
theorem image_later (found : Solution names Fits initial solution) {later : Bindings}
    (laterExtends : later.Extends solution) {name : String} (member : name ∈ names) :
    later.image name = solution.image name := by
  have known : solution.contains name := (found.binds name).2 (.inr member)
  obtain ⟨value, bound⟩ := Option.isSome_iff_exists.1 known
  rw [Bindings.image_of_get? bound, Bindings.image_of_get? (laterExtends name value bound)]

/-- **Two questions one after the other.** What fits the first question goes on fitting it when more names
are bound. -/
theorem append {moreNames : List String} {FitsNext : Bindings → Prop} {last : Bindings}
    (first : Solution names Fits initial solution)
    (second : Solution moreNames FitsNext solution last)
    (stable : ∀ later : Bindings, later.Extends solution → Fits later) :
    Solution (names ++ moreNames) (fun bindings => Fits bindings ∧ FitsNext bindings) initial
      last where
  keeps := second.keeps.trans first.keeps
  binds name := by
    rw [second.binds, first.binds, List.mem_append, or_assoc]
  fits := ⟨stable last second.keeps, second.fits⟩
  unique other otherRespects otherFits name member := by
    rcases List.mem_append.1 member with early | late
    · rw [first.unique other otherRespects otherFits.1 name early,
        first.image_later second.keeps early]
    · exact second.unique other (first.respects otherRespects otherFits.1) otherFits.2 name late

end Solution

/-! ## Patterns that meet no chain of bindings -/

/-- Whenever a variable with one of the names is met and has a term, that term is closed: it is so now, and
it remains so when names are bound to parts of the terms, which are closed, or else no name is met
twice. -/
structure Tame (names : List String) (terms : List Term) (bindings : Bindings) : Prop where
  once : (∀ term ∈ terms, term.Closed) ∨ names.Nodup
  bound : ∀ name ∈ names, ∀ value, bindings.get? name = some value → value.Closed

namespace Tame

variable {pattern term : Term} {patterns terms : List Term} {bindings : Bindings}

theorem components {operator : String}
    (tame : Tame (Term.compound operator patterns).variableOccurrences
      [.compound operator terms] bindings) :
    Tame (patterns.flatMap Term.variableOccurrences) terms bindings := by
  obtain ⟨once, bound⟩ := tame
  simp only [Term.variableOccurrences, Term.variableOccurrencesAll_eq_flatMap,
    List.mem_singleton, forall_eq, Term.closed_compound] at once bound
  exact ⟨once, bound⟩

theorem head (tame : Tame ((pattern :: patterns).flatMap Term.variableOccurrences)
      (term :: terms) bindings) :
    Tame pattern.variableOccurrences [term] bindings where
  once := by
    rcases tame.once with closed | distinct
    · exact .inl (by simpa using closed term List.mem_cons_self)
    · exact .inr (List.nodup_append.1 (List.flatMap_cons ▸ distinct)).1
  bound name member := tame.bound name (by simp [member])

/-- Once the first pattern is matched, what it has bound is closed or is not met again. -/
theorem tail (tame : Tame ((pattern :: patterns).flatMap Term.variableOccurrences)
      (term :: terms) bindings) {solution : Bindings}
    (found : Solution pattern.variableOccurrences (fun b => pattern.substitute b = term)
      bindings solution) :
    Tame (patterns.flatMap Term.variableOccurrences) terms solution where
  once := by
    rcases tame.once with closed | distinct
    · exact .inl fun later member => closed later (List.mem_cons_of_mem _ member)
    · exact .inr (List.nodup_append.1 (List.flatMap_cons ▸ distinct)).2.1
  bound name member value bound := by
    have known : solution.contains name := by simp [Dict.contains, bound]
    rcases (found.binds name).1 known with earlier | new
    · obtain ⟨term, boundEarlier⟩ := Option.isSome_iff_exists.1 earlier
      have sameTerm := found.keeps name term boundEarlier
      rw [bound] at sameTerm
      cases sameTerm
      exact tame.bound name (by simp [member]) value boundEarlier
    · rcases tame.once with closed | distinct
      · have instanceClosed : (pattern.substitute solution).Closed :=
          found.fits ▸ closed term List.mem_cons_self
        rw [← Bindings.image_of_get? bound]
        exact instanceClosed.image new
      · have apart := (List.nodup_append.1 (List.flatMap_cons ▸ distinct)).2.2
        exact absurd rfl (apart name new name member)

end Tame

/-! ## Matching answers the question -/

/-- An unbound variable takes the term. -/
theorem solution_insert {name : String} (term : Term) {bindings : Bindings}
    (kind : Term.isVariableName name = true) (free : bindings.get? name = none) :
    Solution [name] (fun b => (Term.atom name).substitute b = term) bindings
      (bindings.insert name term) where
  keeps := Bindings.Extends.insert term free
  binds other := by
    simp only [Dict.contains, Dict.get?_insert, List.mem_singleton]
    by_cases same : name = other
    · simp [same]
    · simp [same, Ne.symm same]
  fits := by
    rw [Term.substitute_variable _ kind]
    exact Bindings.image_of_get? (by rw [Dict.get?_insert, if_pos rfl])
  unique other _ otherFits := by
    simp only [List.mem_singleton, forall_eq]
    rw [Term.substitute_variable _ kind] at otherFits
    rw [otherFits]
    exact (Bindings.image_of_get? (by rw [Dict.get?_insert, if_pos rfl])).symm

/-- A pattern that binds nothing and stands for a closed term is a comparison with that term. -/
theorem answers_comparison {names : List String} {Fits : Bindings → Prop} {bindings : Bindings}
    {value term : Term} (known : ∀ name ∈ names, bindings.contains name)
    (compare : ∀ other : Bindings, other.Respects bindings → (Fits other ↔ value = term)) :
    Answers names Fits bindings (.ok (if value = term then some bindings else none)) := by
  by_cases same : value = term
  · rw [if_pos same]
    refine ⟨.refl bindings, fun name => ?_, ?_, fun other otherRespects _ name member => ?_⟩
    · exact ⟨.inl, fun either => either.elim id (known name)⟩
    · exact (compare bindings (Bindings.Extends.refl bindings).respects).2 same
    · obtain ⟨value, bound⟩ := Option.isSome_iff_exists.1 (known name member)
      rw [otherRespects name value bound, Bindings.image_of_get? bound]
  · rw [if_neg same]
    exact fun other otherRespects otherFits => same ((compare other otherRespects).1 otherFits)

/-- Matching an atom. -/
theorem answers_extend_atom (name : String) (term : Term) (bindings : Bindings)
    (tame : Tame (Term.atom name).variableOccurrences [term] bindings) :
    Answers (Term.atom name).variableOccurrences (fun b => (Term.atom name).substitute b = term)
      bindings (extend (.atom name) term bindings) := by
  cases kind : Term.isVariableName name with
  | false =>
    have closed : (Term.atom name).Closed := Term.closed_atom.2 kind
    rw [extend_closed bindings _ term closed, closed]
    refine answers_comparison (by simp) fun other _ => ?_
    rw [Term.substitute_constant other kind]
  | true =>
    have occurrences : (Term.atom name).variableOccurrences = [name] := by
      simp [Term.variableOccurrences, kind]
    rw [occurrences] at tame ⊢
    cases bound : bindings.get? name with
    | none =>
      have answer : extend (.atom name) term bindings = .ok (some (bindings.insert name term)) := by
        cases term <;> simp [extend, expose_unbound kind bound]
      rw [answer]
      exact solution_insert term kind bound
    | some value =>
      have closed : value.Closed := tame.bound name (by simp) value bound
      have same : expose bindings (.atom name) = expose bindings value := by
        rw [expose_bound kind bound closed, expose_closed bindings closed]
      rw [extend_congr same, extend_closed bindings value term closed]
      refine answers_comparison (by simp [Dict.contains, bound]) fun other otherRespects => ?_
      rw [Term.substitute_variable other kind, otherRespects name value bound]

mutual

/-- **Matching answers the question** which extensions of the bindings turn the pattern into the term. -/
theorem answers_extend : ∀ (pattern term : Term) (bindings : Bindings),
    Tame pattern.variableOccurrences [term] bindings →
    Answers pattern.variableOccurrences (fun b => pattern.substitute b = term) bindings
      (extend pattern term bindings)
  | .atom name, term, bindings, tame => answers_extend_atom name term bindings tame
  | .compound other patterns, .atom name, bindings, _ => by
    simp [extend, expose, Answers, Term.substitute]
  | .compound other patterns, .compound operator components, bindings, tame => by
    simp only [extend, expose]
    by_cases shape : other = operator ∧ patterns.length = components.length
    · obtain ⟨rfl, lengths⟩ := shape
      have answer := answers_extendAll patterns components bindings lengths tame.components
      rw [if_pos ⟨rfl, lengths⟩]
      simpa only [Term.variableOccurrences, Term.variableOccurrencesAll_eq_flatMap,
        Term.substitute, Term.substituteAll_eq_map, Term.compound.injEq, true_and] using answer
    · rw [if_neg shape]
      intro candidate _ fits
      simp only [Term.substitute, Term.substituteAll_eq_map, Term.compound.injEq] at fits
      exact shape ⟨fits.1, by rw [← fits.2, List.length_map]⟩

/-- Matching of components answers the question for all of them at once. -/
theorem answers_extendAll : ∀ (patterns components : List Term) (bindings : Bindings),
    patterns.length = components.length →
    Tame (patterns.flatMap Term.variableOccurrences) components bindings →
    Answers (patterns.flatMap Term.variableOccurrences)
      (fun b => patterns.map (Term.substitute b) = components) bindings
      (extendAll patterns components bindings)
  | [], [], bindings, _, _ => by
    rw [extendAll]
    · exact ⟨.refl bindings, by simp, by simp, by simp⟩
    · simp
  | [], _ :: _, _, lengths, _ => by simp at lengths
  | _ :: _, [], _, lengths, _ => by simp at lengths
  | pattern :: patterns, component :: components, bindings, lengths, tame => by
    have first := answers_extend pattern component bindings tame.head
    simp only [List.map_cons, List.cons.injEq]
    rw [extendAll]
    cases outcome : extend pattern component bindings with
    | error problem =>
      rw [outcome] at first
      exact first.elim
    | ok answer =>
      rw [outcome] at first
      cases answer with
      | none => exact fun other otherRespects fits => first other otherRespects fits.1
      | some middle =>
        have rest := answers_extendAll patterns components middle (by simpa using lengths)
          (tame.tail first)
        have stable : ∀ later : Bindings, later.Extends middle →
            pattern.substitute later = component := fun later laterExtends => by
          rw [← first.fits]
          exact Term.substitute_congr pattern fun name member =>
            first.image_later laterExtends member
        show Answers _ _ _ (extendAll patterns components middle)
        cases later : extendAll patterns components middle with
        | error problem =>
          rw [later] at rest
          exact rest.elim
        | ok answer =>
          rw [later] at rest
          cases answer with
          | none =>
            intro other otherRespects fits
            exact rest other (first.respects otherRespects fits.1) fits.2
          | some last => exact first.append rest stable

end

/-! ## The statement -/

/-- The solution that matching a pattern against a term under initial bindings has to find: it adds the
variables of the pattern and nothing else, it turns the pattern into the term, and every substitution that
does so has the same images of these variables. -/
structure ExactSolution (pattern term : Term) (initial solution : Bindings) : Prop where
  keeps : solution.Extends initial
  adds : ∀ name, (solution.contains name ∧ ¬ initial.contains name) ↔
    (name ∈ pattern.variableNames ∧ ¬ initial.contains name)
  instance_eq : pattern.substitute solution = term
  unique : ∀ other : Bindings, other.Extends initial → pattern.substitute other = term →
    ∀ name ∈ pattern.variableNames, other.image name = solution.image name

/-- An outcome of matching that is an answer, is a success exactly if there is a substitution to be found,
and is then the exact solution. -/
def ExactAnswer (pattern term : Term) (initial : Bindings)
    (outcome : Except MatchError (Option Bindings)) : Prop :=
  ∃ answer, outcome = .ok answer ∧
    ((∃ solution, answer = some solution) ↔
      ∃ other : Bindings, other.Extends initial ∧ pattern.substitute other = term) ∧
    ∀ solution, answer = some solution → ExactSolution pattern term initial solution

theorem Solution.exact {pattern term : Term} {initial solution : Bindings}
    (found : Solution pattern.variableOccurrences (fun b => pattern.substitute b = term)
      initial solution) : ExactSolution pattern term initial solution where
  keeps := found.keeps
  adds name := by
    rw [found.binds, Term.mem_variableNames]
    constructor
    · rintro ⟨earlier | new, free⟩
      · exact absurd earlier free
      · exact ⟨new, free⟩
    · rintro ⟨new, free⟩
      exact ⟨.inr new, free⟩
  instance_eq := found.fits
  unique other otherExtends fits name member :=
    found.unique other otherExtends.respects fits name (Term.mem_variableNames.1 member)

/-- An outcome that answers the question is exact. -/
theorem Answers.exact {pattern term : Term} {initial : Bindings}
    {outcome : Except MatchError (Option Bindings)}
    (answers : Answers pattern.variableOccurrences (fun b => pattern.substitute b = term) initial
      outcome) : ExactAnswer pattern term initial outcome := by
  cases outcome with
  | error problem => exact answers.elim
  | ok answer =>
    refine ⟨answer, rfl, ?_, ?_⟩
    · cases answer with
      | none =>
        simp only [reduceCtorEq, exists_false, false_iff]
        rintro ⟨other, otherExtends, fits⟩
        exact answers other otherExtends.respects fits
      | some solution =>
        exact ⟨fun _ => ⟨solution, answers.keeps, answers.fits⟩, fun _ => ⟨solution, rfl⟩⟩
    · rintro solution rfl
      exact Solution.exact answers

/-- **Matching is sound, complete and exact,** against closed terms under bindings to closed terms, and for
a pattern without repeated variables against any term with nothing bound. -/
theorem matching_exact :
    (∀ (pattern term : Term) (initial : Bindings), term.Closed →
      (∀ name value, initial.get? name = some value → value.Closed) →
      ExactAnswer pattern term initial (extend pattern term initial)) ∧
    ∀ pattern term : Term, pattern.Linear → ExactAnswer pattern term ∅ (find pattern term) := by
  constructor
  · intro pattern term initial termClosed valuesClosed
    have tame : Tame pattern.variableOccurrences [term] initial :=
      ⟨.inl (by simpa using termClosed), fun name _ value => valuesClosed name value⟩
    exact (answers_extend pattern term initial tame).exact
  · intro pattern term linear
    have tame : Tame pattern.variableOccurrences [term] ∅ :=
      ⟨.inr linear, fun name _ value bound => by simp at bound⟩
    exact (answers_extend pattern term ∅ tame).exact

/-- A repeated variable against a closed term, and distinct variables against an open one. -/
theorem matching_exact_pairs :
    ExactAnswer (.compound "pair" [.atom "$x", .atom "$x"])
        (.compound "pair" [.atom "a", .atom "a"]) ∅
        (.ok (some (Dict.insert ∅ "$x" (.atom "a")))) ∧
      ExactAnswer (.compound "pair" [.atom "$x", .atom "$y"])
        (.compound "pair" [.atom "$y", .atom "$x"]) ∅
        (.ok (some (Dict.insert (Dict.insert ∅ "$x" (.atom "$y")) "$y" (.atom "$x")))) :=
  ⟨matching_exact.1 (.compound "pair" [.atom "$x", .atom "$x"])
      (.compound "pair" [.atom "a", .atom "a"]) ∅ (by decide) (by simp),
    matching_exact.2 (.compound "pair" [.atom "$x", .atom "$y"])
      (.compound "pair" [.atom "$y", .atom "$x"]) (by decide)⟩

end Matching

end TermSpace
