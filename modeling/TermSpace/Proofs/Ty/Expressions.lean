import TermSpace.Proofs.Number.Exact
import TermSpace.Proofs.Term.Parts
import TermSpace.Ty.Expression

/-!
# Type expressions and the terms that write them

Reading a type from a term does two things at once: it finds out which type expression the term is, and it
gives variables to the names in it.  Here the two are taken apart.  An `Expression` has names where a type has
variables, and `Writes` are the rules by which a term writes one.  Giving variables to the names goes through
an expression and cannot fail (`Expression.read`), and a term is read as a type if and only if it writes an
expression (`readExpression_eq_ok_iff`).

Two kinds of application occur in the rules.  Meant is the application of a name to arguments (`Applies`).
What is read is more: the head may be any term that has the name, a compound with that operator too, and the
arguments may be the components of any compound (`Headed`).  A term in which every application has an atom for
its head and a product for its arguments is read if and only if it writes an expression as it is meant, and
what is not read is reported as malformed, with the part that is at fault (`ofTerm_writes`).
-/

namespace TermSpace

set_option autoImplicit false

/-- What has a result has had a first part with a result. -/
theorem bind_eq_ok {ε α β : Type} {first : Except ε α} {next : α → Except ε β} {result : β} :
    (first >>= next) = .ok result ↔ ∃ value, first = .ok value ∧ next value = .ok result := by
  cases first with
  | error problem => simp [Bind.bind, Except.bind]
  | ok value => simp [Bind.bind, Except.bind]

theorem map_eq_ok {ε α β : Type} {first : Except ε α} {function : α → β} {result : β} :
    first.map function = .ok result ↔ ∃ value, first = .ok value ∧ function value = result := by
  cases first with
  | error problem => simp [Except.map]
  | ok value => simp [Except.map]

/-- What has no result fails at first, or after a first part with a result. -/
theorem bind_eq_error {ε α β : Type} {first : Except ε α} {next : α → Except ε β} {problem : ε} :
    (first >>= next) = .error problem ↔
      first = .error problem ∨ ∃ value, first = .ok value ∧ next value = .error problem := by
  cases first with
  | error other => simp [Bind.bind, Except.bind]
  | ok value => simp [Bind.bind, Except.bind]

namespace Ty

/-! ## Expressions -/

/-- A type expression: a type with names for its variables. -/
inductive Expression where
  | named (name : String)
  | base (name : String)
  | arrow (source target : Expression)
  | list (element : Expression)
  | maybe (element : Expression)
  | either (left right : Expression)
  | vector (length : Nat)
  | quantified (name : String) (body : Expression)
deriving DecidableEq

/-- Give variables to the names of an expression, in a function type to those of the target first. -/
def Expression.read : Expression → Scope → Ty × Scope
  | .named name, scope => (.var (scope.variable name).1, (scope.variable name).2)
  | .base name, scope => (.base name, scope)
  | .arrow source target, scope =>
    let (target, scope) := target.read scope
    let (source, scope) := source.read scope
    (.arrow source target, scope)
  | .list element, scope =>
    let (element, scope) := element.read scope
    (.list element, scope)
  | .maybe element, scope =>
    let (element, scope) := element.read scope
    (.maybe element, scope)
  | .either left right, scope =>
    let (left, scope) := left.read scope
    let (right, scope) := right.read scope
    (.either left right, scope)
  | .vector length, scope => (.vector length, scope)
  | .quantified name body, scope =>
    let (ty, after) := body.read (scope.bind name).2
    (.quantified (scope.bind name).1 ty, after.restore scope name)

/-! ## The rules -/

/-- An atom spells a length if the double that it is read as is a whole number and not negative. -/
def SpellsLength (term : Term) (length : Nat) : Prop :=
  ∃ name value, term = .atom name ∧ Term.numberOfName? name = some value ∧
    (Number.read value).value? = some (length : ℚ)

/-- The application of a name to arguments. -/
def Applies (name : String) (arguments : List Term) (term : Term) : Prop :=
  term = .apply (.atom name) arguments

/-- The application of anything that has the name to the components of some compound. -/
def Headed (name : String) (arguments : List Term) (term : Term) : Prop :=
  ∃ head operator, head.name = name ∧
    term = .compound Term.applyOperator [head, .compound operator arguments]

section Rules

variable {heads : String → List Term → Term → Prop}

/-- **The type expression that a term writes,** where the constructors of types are applied as it is said.
Function types associate to the right, and lengths past sixty-four bits count as the largest one. -/
inductive Writes (heads : String → List Term → Term → Prop) : Term → Expression → Prop where
  | named {name : String} (isVariable : Term.isVariableName name = true) :
      Writes heads (.atom name) (.named name)
  | base {name : String} (constant : Term.isVariableName name = false) :
      Writes heads (.atom name) (.base name)
  | arrow {sources : List (Term × Expression)} {last : Term} {target : Expression}
      (several : sources ≠ []) (each : ∀ source ∈ sources, Writes heads source.1 source.2)
      (final : Writes heads last target) :
      Writes heads (.compound "->" (sources.map (·.1) ++ [last]))
        (sources.foldr (fun source inner => .arrow source.2 inner) target)
  | list {term argument : Term} {element : Expression} (headed : heads "List" [argument] term)
      (inside : Writes heads argument element) : Writes heads term (.list element)
  | maybe {term argument : Term} {element : Expression} (headed : heads "Maybe" [argument] term)
      (inside : Writes heads argument element) : Writes heads term (.maybe element)
  | either {term first second : Term} {left right : Expression}
      (headed : heads "Either" [first, second] term) (atFirst : Writes heads first left)
      (atSecond : Writes heads second right) : Writes heads term (.either left right)
  | vector {term argument : Term} {length : Nat} (headed : heads "Vector" [argument] term)
      (spells : SpellsLength argument length) :
      Writes heads term (.vector (min length (Nat.pow 2 64 - 1)))
  | quantified {term second : Term} {name : String} {body : Expression}
      (headed : heads "forall" [.atom name, second] term)
      (isVariable : Term.isVariableName name = true) (inside : Writes heads second body) :
      Writes heads term (.quantified name body)

/-- More kinds of application let a term write no less. -/
theorem Writes.mono {others : String → List Term → Term → Prop}
    (more : ∀ name arguments term, heads name arguments term → others name arguments term) {term : Term}
    {expression : Expression} (writes : Writes heads term expression) : Writes others term expression := by
  induction writes with
  | named isVariable => exact .named isVariable
  | base constant => exact .base constant
  | arrow several _ _ ih ihFinal => exact .arrow several ih ihFinal
  | list headed _ ih => exact .list (more _ _ _ headed) ih
  | maybe headed _ ih => exact .maybe (more _ _ _ headed) ih
  | either headed _ _ ihFirst ihSecond => exact .either (more _ _ _ headed) ihFirst ihSecond
  | vector headed spells => exact .vector (more _ _ _ headed) spells
  | quantified headed isVariable _ ih => exact .quantified (more _ _ _ headed) isVariable ih

theorem Applies.headed {name : String} {arguments : List Term} {term : Term}
    (applies : Applies name arguments term) : Headed name arguments term :=
  ⟨.atom name, Term.productOperator, rfl, applies⟩

end Rules

theorem lengthOf?_eq_some_iff {term : Term} {length : Nat} :
    lengthOf? term = some length ↔
      ∃ whole, SpellsLength term whole ∧ length = min whole (Nat.pow 2 64 - 1) := by
  cases term with
  | compound operator components =>
    simp [lengthOf?, Term.number?, SpellsLength]
  | atom name =>
    simp only [lengthOf?, Term.number?, Option.bind_eq_bind, Option.bind_eq_some_iff, SpellsLength,
      Term.atom.injEq]
    constructor
    · rintro ⟨value, spelled, found⟩
      cases reads : Number.read value with
      | infinite negative => simp [reads] at found
      | notANumber => simp [reads] at found
      | finite negative magnitude =>
        simp only [reads, Option.bind_eq_some_iff, Option.ite_none_left_eq_some, not_and,
          Option.some.injEq, Decidable.not_not] at found
        obtain ⟨whole, isWhole, zero, rfl⟩ := found
        exact ⟨whole, ⟨name, value, rfl, spelled, reads ▸ Number.value?_eq_natCast_iff.2 ⟨isWhole, zero⟩⟩,
          rfl⟩
    · rintro ⟨whole, ⟨_, value, rfl, spelled, equal⟩, rfl⟩
      refine ⟨value, spelled, ?_⟩
      cases reads : Number.read value with
      | infinite negative => simp [reads, Number.Reading.value?] at equal
      | notANumber => simp [reads, Number.Reading.value?] at equal
      | finite negative magnitude =>
        rw [reads] at equal
        obtain ⟨isWhole, zero⟩ := Number.value?_eq_natCast_iff.1 equal
        simpa [isWhole] using zero

/-! ## Reading by the form of a term -/

section Forms

variable {scope : Scope} {head argument first second : Term} {operator : String} {components : List Term}

theorem applyOperator_ne_arrow : Term.applyOperator ≠ "->" := by decide

theorem readExpression_arrow (several : 2 ≤ components.length) :
    readExpression scope (.compound "->" components) = readArrow scope components := by
  match components with
  | first :: second :: rest => simp only [readExpression, if_true]

theorem readArrow_cons (nonempty : components ≠ []) :
    readArrow scope (first :: components) =
      (readArrow scope components).bind fun target =>
        (readExpression target.2 first).map fun source => (.arrow source.1 target.1, source.2) := by
  match components with
  | second :: rest =>
    rw [readArrow]
    cases readArrow scope (second :: rest) with
    | error problem => rfl
    | ok target =>
      change (readExpression target.2 first >>= _) = (readExpression target.2 first).map _
      cases readExpression target.2 first <;> rfl

theorem readExpression_list (isList : head.name = "List") :
    readExpression scope (.compound Term.applyOperator [head, .compound operator [argument]]) =
      (readExpression scope argument).map fun result => (.list result.1, result.2) := by
  simp only [readExpression, if_neg applyOperator_ne_arrow, if_true, if_pos isList]
  cases readExpression scope argument <;> rfl

theorem readExpression_maybe (isMaybe : head.name = "Maybe") :
    readExpression scope (.compound Term.applyOperator [head, .compound operator [argument]]) =
      (readExpression scope argument).map fun result => (.maybe result.1, result.2) := by
  have notList : head.name ≠ "List" := by simp [isMaybe]
  simp only [readExpression, if_neg applyOperator_ne_arrow, if_true, if_neg notList, if_pos isMaybe]
  cases readExpression scope argument <;> rfl

theorem readExpression_vector (isVector : head.name = "Vector") {length : Nat}
    (spelled : lengthOf? argument = some length) :
    readExpression scope (.compound Term.applyOperator [head, .compound operator [argument]]) =
      .ok (.vector length, scope) := by
  have notList : head.name ≠ "List" := by simp [isVector]
  have notMaybe : head.name ≠ "Maybe" := by simp [isVector]
  simp only [readExpression, if_neg applyOperator_ne_arrow, if_true, if_neg notList, if_neg notMaybe,
    if_pos isVector, spelled]

theorem readExpression_either (isEither : head.name = "Either") :
    readExpression scope (.compound Term.applyOperator [head, .compound operator [first, second]]) =
      (readExpression scope first).bind fun left =>
        (readExpression left.2 second).map fun right => (.either left.1 right.1, right.2) := by
  simp only [readExpression, if_neg applyOperator_ne_arrow, if_true, if_pos isEither]
  cases readExpression scope first with
  | error problem => rfl
  | ok left =>
    change (readExpression left.2 second >>= _) = (readExpression left.2 second).map _
    cases readExpression left.2 second <;> rfl

theorem readExpression_quantified (isForall : head.name = "forall") {name : String}
    (isVariable : Term.isVariableName name = true) :
    readExpression scope (.compound Term.applyOperator [head, .compound operator [.atom name, second]]) =
      (readExpression (scope.bind name).2 second).map fun body =>
        (.quantified (scope.bind name).1 body.1, body.2.restore scope name) := by
  have notEither : head.name ≠ "Either" := by simp [isForall]
  have both : head.name = "forall" ∧ (Term.atom name).isVariable = true := ⟨isForall, isVariable⟩
  rw [readExpression, if_neg applyOperator_ne_arrow, if_pos rfl]
  dsimp only
  rw [if_neg notEither, if_pos both]
  change (readExpression (scope.bind name).2 second >>= _) = (readExpression (scope.bind name).2 second).map _
  cases readExpression (scope.bind name).2 second <;> rfl

end Forms

/-! ## What is written is read -/

/-- The sources of a function type are read after the target, the first one last. -/
theorem readArrow_sources {sources : List (Term × Expression)} {last : Term} {target : Expression}
    (each : ∀ source ∈ sources, ∀ scope, readExpression scope source.1 = .ok (source.2.read scope))
    (final : ∀ scope, readExpression scope last = .ok (target.read scope)) (scope : Scope) :
    readArrow scope (sources.map (·.1) ++ [last]) =
      .ok ((sources.foldr (fun source inner => .arrow source.2 inner) target).read scope) := by
  induction sources with
  | nil => simpa only [List.map_nil, List.nil_append, readArrow, List.foldr_nil] using final scope
  | cons source sources ih =>
    rw [List.forall_mem_cons] at each
    rw [List.map_cons, List.cons_append, readArrow_cons (by simp), ih each.2]
    simp only [Except.bind, each.1, Except.map, List.foldr_cons, Expression.read]

/-- **What a term writes is read.** -/
theorem Writes.readExpression {term : Term} {expression : Expression} (writes : Writes Headed term expression)
    (scope : Scope) : Ty.readExpression scope term = .ok (expression.read scope) := by
  induction writes generalizing scope with
  | named isVariable => simp only [Ty.readExpression, if_pos isVariable, Expression.read]
  | base constant => simp [Ty.readExpression, constant, Expression.read]
  | arrow several _ _ ih ihFinal =>
    have several : 1 ≤ _ := List.length_pos_of_ne_nil several
    rw [readExpression_arrow (by simpa using several), readArrow_sources ih ihFinal]
  | list headed _ ih =>
    obtain ⟨head, operator, isList, rfl⟩ := headed
    rw [readExpression_list isList, ih]
    rfl
  | maybe headed _ ih =>
    obtain ⟨head, operator, isMaybe, rfl⟩ := headed
    rw [readExpression_maybe isMaybe, ih]
    rfl
  | either headed _ _ ihFirst ihSecond =>
    obtain ⟨head, operator, isEither, rfl⟩ := headed
    rw [readExpression_either isEither, ihFirst, Except.bind, ihSecond]
    rfl
  | vector headed spells =>
    obtain ⟨head, operator, isVector, rfl⟩ := headed
    rw [readExpression_vector isVector (lengthOf?_eq_some_iff.2 ⟨_, spells, rfl⟩)]
    rfl
  | quantified headed isVariable _ ih =>
    obtain ⟨head, operator, isForall, rfl⟩ := headed
    rw [readExpression_quantified isForall isVariable, ih]
    rfl

/-! ## What is not written is reported -/

section Malformed

variable {scope : Scope} {operator : String} {components : List Term}

theorem readExpression_tooShort
    (short : ∀ first second rest, components = first :: second :: rest → False) :
    readExpression scope (.compound "->" components) = .error (.malformed (.compound "->" components)) := by
  unfold readExpression
  rw [if_pos rfl]
  split
  · exact absurd rfl (short _ _ _)
  · rfl

theorem readExpression_noArguments
    (notOne : ∀ head operator argument, components = [head, .compound operator [argument]] → False)
    (notTwo : ∀ head operator first second,
      components = [head, .compound operator [first, second]] → False) :
    readExpression scope (.compound Term.applyOperator components) =
      .error (.malformed (.compound Term.applyOperator components)) := by
  unfold readExpression
  rw [if_neg (by decide), if_pos rfl]
  split
  · exact absurd rfl (notOne _ _ _)
  · exact absurd rfl (notTwo _ _ _ _)
  · rfl

theorem readExpression_malformed (notArrow : operator ≠ "->") (notApply : operator ≠ Term.applyOperator) :
    readExpression scope (.compound operator components) =
      .error (.malformed (.compound operator components)) := by
  unfold readExpression
  rw [if_neg notArrow, if_neg notApply]

end Malformed

/-- An error that reports a part of a term. -/
def Reports (term : Term) (problem : TypeError) : Prop :=
  ∃ part, part.Part term ∧ problem = .malformed part

theorem Reports.inside {operator : String} {components : List Term} {component : Term}
    {problem : TypeError} (reports : Reports component problem) (member : component ∈ components) :
    Reports (.compound operator components) problem := by
  obtain ⟨part, deeper, same⟩ := reports
  exact ⟨part, .inside member deeper, same⟩

theorem Reports.argument {operator inner : String} {head argument : Term} {arguments : List Term}
    {problem : TypeError} (reports : Reports argument problem) (member : argument ∈ arguments) :
    Reports (.compound operator [head, .compound inner arguments]) problem := by
  have atArguments : Reports (.compound inner arguments) problem := reports.inside member
  exact atArguments.inside (by simp)

theorem reports_self (term : Term) : Reports term (.malformed term) := ⟨term, .whole term, rfl⟩

/-- A term writes an expression, or it is reported whatever the names stand for. -/
def WritesOrReports (term : Term) : Prop :=
  (∃ expression, Writes Headed term expression) ∨
    ∃ problem, Reports term problem ∧ ∀ scope, readExpression scope term = .error problem

/-- The parts of a function type all write expressions, or one of them is reported. -/
def PartsWriteOrReport (terms : List Term) : Prop :=
  (∃ sources : List (Term × Expression), ∃ last target, terms = sources.map (·.1) ++ [last] ∧
    (∀ source ∈ sources, Writes Headed source.1 source.2) ∧ Writes Headed last target) ∨
  ∃ problem, (∃ term ∈ terms, Reports term problem) ∧ ∀ scope, readArrow scope terms = .error problem

theorem writesOrReports (term : Term) : WritesOrReports term := by
  -- What a term writes depends on no scope; the one that the induction goes through is any.
  refine readExpression.induct (fun _ term => WritesOrReports term)
    (fun _ terms => terms ≠ [] → PartsWriteOrReport terms)
    ?named ?base ?arrow ?tooShort ?list ?maybe ?vector ?noLength ?unknownOne ?either ?quantified
    ?unknownTwo ?noArguments ?malformed ?noParts ?lastPart ?parts ⟨∅, 0⟩ term
  case named =>
    intro _ name isVariable id inner drawn
    exact .inl ⟨_, .named isVariable⟩
  case base =>
    intro _ name notVariable
    exact .inl ⟨_, .base (by simpa using notVariable)⟩
  case arrow =>
    intro _ first second rest ih
    rcases ih (by simp) with
      ⟨sources, last, target, same, each, final⟩ | ⟨problem, ⟨part, member, reports⟩, fails⟩
    · rw [same]
      refine .inl ⟨_, .arrow ?_ each final⟩
      rintro rfl
      simp at same
    · refine .inr ⟨problem, reports.inside member, fun scope => ?_⟩
      rw [readExpression_arrow (by simp), fails]
  case tooShort =>
    intro _ components short
    exact .inr ⟨_, reports_self _, fun scope => readExpression_tooShort short⟩
  case list =>
    intro _ head operator argument isList notArrow ih
    rcases ih with ⟨expression, writes⟩ | ⟨problem, reports, fails⟩
    · exact .inl ⟨_, .list ⟨head, operator, isList, rfl⟩ writes⟩
    · refine .inr ⟨problem, reports.argument (by simp), fun scope => ?_⟩
      rw [readExpression_list isList, fails]
      rfl
  case maybe =>
    intro _ head operator argument notList isMaybe notArrow ih
    rcases ih with ⟨expression, writes⟩ | ⟨problem, reports, fails⟩
    · exact .inl ⟨_, .maybe ⟨head, operator, isMaybe, rfl⟩ writes⟩
    · refine .inr ⟨problem, reports.argument (by simp), fun scope => ?_⟩
      rw [readExpression_maybe isMaybe, fails]
      rfl
  case vector =>
    intro _ head operator argument notList notMaybe isVector length read notArrow
    obtain ⟨whole, spells, rfl⟩ := lengthOf?_eq_some_iff.1 read
    exact .inl ⟨_, .vector ⟨head, operator, isVector, rfl⟩ spells⟩
  case noLength =>
    intro _ head operator argument notList notMaybe isVector read notArrow
    refine .inr ⟨_, reports_self _, fun scope => ?_⟩
    simp only [readExpression, if_neg notArrow, if_true, if_neg notList, if_neg notMaybe, if_pos isVector,
      read]
  case unknownOne =>
    intro _ head operator argument notList notMaybe notVector notArrow
    refine .inr ⟨_, reports_self _, fun scope => ?_⟩
    simp only [readExpression, if_neg notArrow, if_true, if_neg notList, if_neg notMaybe,
      if_neg notVector]
  case either =>
    intro outer head operator first second isEither notArrow ih ih'
    rcases ih with ⟨left, writesFirst⟩ | ⟨problem, reports, fails⟩
    · rcases ih' (left.read outer).2 with ⟨right, writesSecond⟩ | ⟨problem, reports, fails⟩
      · exact .inl ⟨_, .either ⟨head, operator, isEither, rfl⟩ writesFirst writesSecond⟩
      · refine .inr ⟨problem, reports.argument (by simp), fun scope => ?_⟩
        rw [readExpression_either isEither, writesFirst.readExpression, Except.bind, fails]
        rfl
    · refine .inr ⟨problem, reports.argument (by simp), fun scope => ?_⟩
      rw [readExpression_either isEither, fails]
      rfl
  case quantified =>
    intro _ head operator first second notEither isForall id inner bound notArrow ih
    cases first with
    | compound other components => exact absurd isForall.2 (by simp [Term.isVariable])
    | atom name =>
      rcases ih with ⟨body, writes⟩ | ⟨problem, reports, fails⟩
      · exact .inl ⟨_, .quantified ⟨head, operator, isForall.1, rfl⟩ isForall.2 writes⟩
      · refine .inr ⟨problem, reports.argument (by simp), fun scope => ?_⟩
        rw [readExpression_quantified isForall.1 isForall.2, fails]
        rfl
  case unknownTwo =>
    intro _ head operator first second notEither notForall notArrow
    refine .inr ⟨_, reports_self _, fun scope => ?_⟩
    simp only [readExpression, if_neg notArrow, if_true, if_neg notEither, if_neg notForall]
  case noArguments =>
    intro _ components notOne notTwo notArrow
    exact .inr ⟨_, reports_self _, fun scope => readExpression_noArguments notOne notTwo⟩
  case malformed =>
    intro _ operator components notArrow notApply
    exact .inr ⟨_, reports_self _, fun scope => readExpression_malformed notArrow notApply⟩
  case noParts =>
    intro _ nonempty
    exact absurd rfl nonempty
  case lastPart =>
    intro _ last ih _
    rcases ih with ⟨expression, writes⟩ | ⟨problem, reports, fails⟩
    · exact .inl ⟨[], last, expression, rfl, by simp, writes⟩
    · exact .inr ⟨problem, ⟨last, by simp, reports⟩, fun scope => by rw [readArrow, fails]⟩
  case parts =>
    intro outer first second rest ih ih' _
    rcases ih (by simp) with
      ⟨sources, last, target, same, each, final⟩ | ⟨problem, ⟨part, member, reports⟩, fails⟩
    · rcases ih' outer with ⟨source, writes⟩ | ⟨problem, reports, fails⟩
      · refine .inl ⟨(first, source) :: sources, last, target, by rw [same]; rfl, ?_, final⟩
        exact List.forall_mem_cons.2 ⟨writes, each⟩
      · refine .inr ⟨problem, ⟨first, by simp, reports⟩, fun scope => ?_⟩
        rw [readArrow_cons (by simp), same,
          readArrow_sources (fun source inside => (each source inside).readExpression) final.readExpression,
          Except.bind, fails]
        rfl
    · refine .inr ⟨problem, ⟨part, List.mem_cons_of_mem _ member, reports⟩, fun scope => ?_⟩
      rw [readArrow_cons (by simp), fails]
      rfl

/-- **Reading a type expression** is giving variables to the names of what is written. -/
theorem readExpression_eq_ok_iff {scope after : Scope} {term : Term} {ty : Ty} :
    readExpression scope term = .ok (ty, after) ↔
      ∃ expression, Writes Headed term expression ∧ expression.read scope = (ty, after) := by
  constructor
  · intro reads
    rcases writesOrReports term with ⟨expression, writes⟩ | ⟨problem, -, fails⟩
    · rw [writes.readExpression] at reads
      exact ⟨expression, writes, Except.ok.inj reads⟩
    · rw [fails] at reads
      cases reads
  · rintro ⟨expression, writes, same⟩
    rw [writes.readExpression, same]

/-- **What writes no type is reported as malformed,** by a part of it. -/
theorem reports_of_readExpression {scope : Scope} {term : Term} {problem : TypeError}
    (fails : readExpression scope term = .error problem) : Reports term problem := by
  rcases writesOrReports term with ⟨expression, writes⟩ | ⟨other, reports, same⟩
  · rw [writes.readExpression] at fails
    cases fails
  · obtain rfl : other = problem := Except.error.inj ((same scope).symm.trans fails)
    exact reports

theorem reports_of_ofTerm {ascription : Term} {supply : Nat} {problem : TypeError}
    (fails : ofTerm ascription supply = .error problem) : Reports ascription problem := by
  rcases bind_eq_error.1 fails with atTerm | ⟨result, -, absent⟩
  · exact reports_of_readExpression atTerm
  · cases absent

/-! ## What is meant and what is read -/

/-- Every application in a term has an atom for its head and a product for its arguments. -/
def OrdinaryApplications (term : Term) : Prop :=
  ∀ head arguments, (Term.compound Term.applyOperator [head, arguments]).Part term →
    head.isAtomic = true ∧ arguments.operator? = some Term.productOperator

namespace OrdinaryApplications

variable {term : Term} (ordinary : OrdinaryApplications term)

include ordinary

theorem part {part : Term} (inside : part.Part term) : OrdinaryApplications part :=
  fun _ _ deeper => ordinary _ _ (deeper.trans inside)

/-- Where applications are ordinary, what is headed by a name is the application of the name. -/
theorem applies {name : String} {arguments : List Term} (headed : Headed name arguments term) :
    Applies name arguments term := by
  obtain ⟨head, operator, named, rfl⟩ := headed
  obtain ⟨atomic, product⟩ := ordinary head _ (.whole _)
  obtain rfl : operator = Term.productOperator := Option.some.inj product
  cases head with
  | compound other components => cases atomic
  | atom other =>
    obtain rfl : other = name := named
    rfl

end OrdinaryApplications

theorem Headed.part {name : String} {arguments : List Term} {argument term : Term}
    (headed : Headed name arguments term) (member : argument ∈ arguments) : argument.Part term := by
  obtain ⟨head, operator, -, rfl⟩ := headed
  have inside : argument.Part (.compound operator arguments) := .inside member (.whole argument)
  exact .inside (by simp) inside

/-- Where applications are ordinary, everything is written as it is meant. -/
theorem Writes.applies {term : Term} {expression : Expression} (writes : Writes Headed term expression)
    (ordinary : OrdinaryApplications term) : Writes Applies term expression := by
  induction writes with
  | named isVariable => exact .named isVariable
  | base constant => exact .base constant
  | @arrow sources last target several each final ih ihFinal =>
    refine .arrow several (fun source member => ih source member (ordinary.part ?_))
      (ihFinal (ordinary.part ?_))
    · exact .inside (List.mem_append_left _ (List.mem_map_of_mem member)) (.whole _)
    · exact .inside (by simp) (.whole _)
  | list headed _ ih =>
    exact .list (ordinary.applies headed) (ih (ordinary.part (headed.part (by simp))))
  | maybe headed _ ih =>
    exact .maybe (ordinary.applies headed) (ih (ordinary.part (headed.part (by simp))))
  | either headed _ _ ihFirst ihSecond =>
    exact .either (ordinary.applies headed) (ihFirst (ordinary.part (headed.part (by simp))))
      (ihSecond (ordinary.part (headed.part (by simp))))
  | vector headed spells => exact .vector (ordinary.applies headed) spells
  | quantified headed isVariable _ ih =>
    exact .quantified (ordinary.applies headed) isVariable (ih (ordinary.part (headed.part (by simp))))

/-- What is written as it is meant has an atom for its head. -/
theorem Writes.isAtomic_head {head : Term} {arguments : List Term} {expression : Expression}
    (writes : Writes Applies (.apply head arguments) expression) : head.isAtomic = true := by
  generalize same : Term.apply head arguments = term at writes
  cases writes with
  | named isVariable => cases same
  | base constant => cases same
  | arrow several each final => exact absurd (Term.compound.inj same).1 applyOperator_ne_arrow
  | list headed inside | maybe headed inside | either headed atFirst atSecond | vector headed spells
  | quantified headed isVariable inside =>
    subst headed
    cases same
    rfl

theorem exists_ofTerm_iff {term : Term} {supply : Nat} :
    (∃ ty left, ofTerm term supply = .ok (ty, left)) ↔ ∃ expression, Writes Headed term expression := by
  constructor
  · rintro ⟨ty, left, reads⟩
    obtain ⟨⟨ty, scope⟩, reads, -⟩ := bind_eq_ok.1 reads
    obtain ⟨expression, writes, -⟩ := readExpression_eq_ok_iff.1 reads
    exact ⟨expression, writes⟩
  · rintro ⟨expression, writes⟩
    exact ⟨_, _, bind_eq_ok.2 ⟨_, writes.readExpression ⟨∅, supply⟩, rfl⟩⟩

/-- **The terms that are read as types.** A type is read from a term if and only if the term writes an
expression, where anything that has the name of a constructor may be applied to the components of any compound.
All terms that write an expression as it is meant, with a constructor applied to arguments, are among these,
and there are no others among the terms whose applications are ordinary.  Every other term is reported as
malformed, by a part of it. -/
theorem ofTerm_writes (term : Term) (supply : Nat) :
    ((∃ ty left, ofTerm term supply = .ok (ty, left)) ↔ ∃ expression, Writes Headed term expression) ∧
    ((∃ expression, Writes Applies term expression) → ∃ ty left, ofTerm term supply = .ok (ty, left)) ∧
    (OrdinaryApplications term →
      ((∃ ty left, ofTerm term supply = .ok (ty, left)) ↔ ∃ expression, Writes Applies term expression)) ∧
    ((¬ ∃ expression, Writes Headed term expression) →
      ∃ part, part.Part term ∧ ofTerm term supply = .error (.malformed part)) := by
  have meant : (∃ expression, Writes Applies term expression) → ∃ expression, Writes Headed term expression :=
    fun ⟨expression, writes⟩ => ⟨expression, writes.mono fun _ _ _ => Applies.headed⟩
  refine ⟨exists_ofTerm_iff, fun written => exists_ofTerm_iff.2 (meant written), fun ordinary => ?_,
    fun unwritten => ?_⟩
  · rw [exists_ofTerm_iff]
    exact ⟨fun ⟨expression, writes⟩ => ⟨expression, writes.applies ordinary⟩, meant⟩
  · cases reads : ofTerm term supply with
    | ok result => exact absurd (exists_ofTerm_iff.1 ⟨result.1, result.2, reads⟩) unwritten
    | error problem =>
      obtain ⟨part, inside, rfl⟩ := reports_of_ofTerm reads
      exact ⟨part, inside, rfl⟩

/-- **A compound is taken for a constructor.** The head of `((List, x) Number)` is no atom, and the type of
lists of numbers is read from it. -/
theorem ofTerm_headed_by_compound :
    let term := Term.apply (.compound "List" [.atom "x"]) [.atom "Number"]
    ofTerm term 0 = .ok (.list .number, 0) ∧ ¬ ∃ expression, Writes Applies term expression := by
  refine ⟨rfl, ?_⟩
  rintro ⟨expression, writes⟩
  exact absurd writes.isAtomic_head (by decide)

end Ty

end TermSpace
