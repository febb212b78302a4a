import TermSpace.Grounded.Builtins
import TermSpace.Proofs.Number.Exact

/-!
# Where arithmetic fails

Arithmetic reads an argument and takes it into the result before it looks at the next one.  So whatever is wrong
with the arguments, a call fails at the leftmost of them with which something is wrong, and with the error for that
argument (`arithmetic_fails`).  What may be wrong depends on the place: zero is no divisor, but it can be divided.

The places are counted from the left.  What offends at the places after the first is what offends among the
remaining arguments, with the count one lower (`leftmost_cons`), and that is how the functions go through them.
-/

namespace TermSpace

set_option autoImplicit false

namespace Term

/-- An argument that spells no number. -/
def NotNumeric (argument : Term) : Prop := argument.number? = none

/-- An argument that spells the number zero. -/
def SpellsZero (argument : Term) : Prop :=
  ∃ value, argument.number? = some value ∧ (Number.read value).value? = some 0

instance (argument : Term) : Decidable argument.NotNumeric :=
  inferInstanceAs (Decidable (argument.number? = none))

end Term

namespace Builtins

open Term (NotNumeric SpellsZero)

/-! ## The leftmost offender -/

section Leftmost

variable {Offends : Nat → Term → Prop}

/-- **The leftmost offender** among some arguments, where an argument may offend at one place and not at another. -/
def Leftmost (Offends : Nat → Term → Prop) (arguments : List Term) (offender : Term) : Prop :=
  ∃ place, arguments[place]? = some offender ∧ Offends place offender ∧
    ∀ earlier argument, earlier < place → arguments[earlier]? = some argument → ¬ Offends earlier argument

theorem not_leftmost_nil {offender : Term} : ¬ Leftmost Offends [] offender := by
  rintro ⟨place, there, -⟩
  cases there

/-- The first argument is the leftmost offender, or it does not offend and the remaining ones have one. -/
theorem leftmost_cons {first offender : Term} {rest : List Term} :
    Leftmost Offends (first :: rest) offender ↔
      (Offends 0 first ∧ offender = first) ∨
        (¬ Offends 0 first ∧ Leftmost (fun place => Offends (place + 1)) rest offender) := by
  constructor
  · rintro ⟨place, there, offends, before⟩
    cases place with
    | zero =>
      cases there
      exact .inl ⟨offends, rfl⟩
    | succ place =>
      refine .inr ⟨before 0 first place.succ_pos rfl, place, there, offends, ?_⟩
      exact fun earlier argument below => before (earlier + 1) argument (Nat.succ_lt_succ below)
  · rintro (⟨offends, rfl⟩ | ⟨passes, place, there, offends, before⟩)
    · exact ⟨0, rfl, offends, fun earlier argument below => absurd below earlier.not_lt_zero⟩
    · refine ⟨place + 1, there, offends, fun earlier argument below inside => ?_⟩
      cases earlier with
      | zero =>
        cases inside
        exact passes
      | succ earlier => exact before earlier argument (Nat.lt_of_succ_lt_succ below) inside

/-- Where an argument offends there is a leftmost one that does. -/
theorem exists_leftmost_iff {arguments : List Term} :
    (∃ offender, Leftmost Offends arguments offender) ↔
      ∃ place argument, arguments[place]? = some argument ∧ Offends place argument := by
  constructor
  · rintro ⟨offender, place, there, offends, -⟩
    exact ⟨place, offender, there, offends⟩
  · intro somewhere
    classical
    obtain ⟨argument, there, offends⟩ := Nat.find_spec somewhere
    refine ⟨argument, Nat.find somewhere, there, offends, fun earlier other below inside offendsToo => ?_⟩
    exact Nat.find_min somewhere below ⟨other, inside, offendsToo⟩

end Leftmost

/-! ## Failing there -/

section Failing

variable {α β : Type} {Offends Other : Nat → Term → Prop} {report : Term → GroundedError} {first : Term}
  {arguments : List Term} {outcome : Except GroundedError α}

/-- **The outcome fails at the leftmost offender:** it fails just if an argument offends, and with the report of the
leftmost one that does. -/
structure FailsAtLeftmost (Offends : Nat → Term → Prop) (report : Term → GroundedError)
    (arguments : List Term) (outcome : Except GroundedError α) : Prop where
  fails_iff : (∃ problem, outcome = .error problem) ↔
    ∃ place argument, arguments[place]? = some argument ∧ Offends place argument
  error_iff : ∀ problem, outcome = .error problem ↔
    ∃ offender, Leftmost Offends arguments offender ∧ problem = report offender

namespace FailsAtLeftmost

/-- The error says whether there is one. -/
theorem of_error_iff (errors : ∀ problem, outcome = .error problem ↔
    ∃ offender, Leftmost Offends arguments offender ∧ problem = report offender) :
    FailsAtLeftmost Offends report arguments outcome := by
  refine ⟨?_, errors⟩
  simp only [← exists_leftmost_iff, errors]
  rw [exists_comm]
  simp

theorem congr (fails : FailsAtLeftmost Offends report arguments outcome)
    (same : ∀ place argument, Offends place argument ↔ Other place argument) :
    FailsAtLeftmost Other report arguments outcome := by
  have equal : Offends = Other := by
    funext place argument
    exact propext (same place argument)
  exact equal ▸ fails

/-- Without arguments there is a result. -/
theorem nil (result : α) : FailsAtLeftmost Offends report [] (.ok result) :=
  of_error_iff fun problem => by simp [not_leftmost_nil]

/-- If the first argument offends, the others do not matter. -/
theorem here (offends : Offends 0 first) (rest : List Term) :
    FailsAtLeftmost Offends report (first :: rest) (.error (report first) : Except GroundedError α) :=
  of_error_iff fun problem => by simp [leftmost_cons, offends, eq_comm]

/-- If it does not, the others decide. -/
theorem later {rest : List Term} (passes : ¬ Offends 0 first)
    (fails : FailsAtLeftmost (fun place => Offends (place + 1)) report rest outcome) :
    FailsAtLeftmost Offends report (first :: rest) outcome :=
  of_error_iff fun problem => by simp [leftmost_cons, passes, fails.error_iff]

/-- What is made of the result does not matter. -/
theorem map (fails : FailsAtLeftmost Offends report arguments outcome) (change : α → β) :
    FailsAtLeftmost Offends report arguments (outcome.map change) :=
  of_error_iff fun problem => by
    rw [← fails.error_iff]
    cases outcome <;> simp [Except.map]

end FailsAtLeftmost

end Failing

/-! ## Folding -/

section Folding

variable {name : String} {combine : Float → Float → Except GroundedError Float} {Refused : Term → Prop}
  {report : Term → GroundedError}

/-- **What an operation refuses** are arguments of a kind, among them all that are not numeric, each with its
report. -/
structure Refuses (name : String) (combine : Float → Float → Except GroundedError Float)
    (Refused : Term → Prop) (report : Term → GroundedError) : Prop where
  unread : ∀ argument, argument.NotNumeric → Refused argument ∧ report argument = .notANumber name argument
  refused : ∀ argument value, argument.number? = some value → Refused argument →
    ∀ left, combine left value = .error (report argument)
  taken : ∀ argument value, argument.number? = some value → ¬ Refused argument →
    ∀ left, ∃ next, combine left value = .ok next

/-- An operation on all numbers refuses what is no number. -/
theorem refuses_notNumeric (name : String) (operation : Float → Float → Float) :
    Refuses name (fun left right => .ok (operation left right)) NotNumeric (.notANumber name) where
  unread argument notNumeric := ⟨notNumeric, rfl⟩
  refused argument value reads notNumeric := by
    rw [NotNumeric, reads] at notNumeric
    cases notNumeric
  taken argument value _ _ left := ⟨operation left value, rfl⟩

/-- **Taking in arguments one by one** fails at the leftmost that is refused. -/
theorem Refuses.accumulate (refuses : Refuses name combine Refused report) (result : Float)
    (arguments : List Term) :
    FailsAtLeftmost (fun _ => Refused) report arguments (accumulate name combine result arguments) := by
  induction arguments generalizing result with
  | nil => exact .nil result
  | cons argument rest ih =>
    rw [Builtins.accumulate, readNumber]
    cases reads : argument.number? with
    | none =>
      obtain ⟨refused, reports⟩ := refuses.unread argument reads
      rw [← reports]
      exact .here refused rest
    | some value =>
      by_cases refused : Refused argument
      · have stops := refuses.refused argument value reads refused result
        simp only [stops, bind, Except.bind]
        exact .here refused rest
      · obtain ⟨next, goesOn⟩ := refuses.taken argument value reads refused result
        simp only [goesOn, bind, Except.bind]
        exact .later refused (ih next)

theorem Refuses.fromSeed (refuses : Refuses name combine Refused report) (seed : Float) (space : Space)
    (arguments : List Term) :
    FailsAtLeftmost (fun _ => Refused) report arguments (fromSeed name combine seed space arguments) :=
  (refuses.accumulate seed arguments).map Term.number

/-- The first argument is not combined with anything, and need only be numeric. -/
theorem Refuses.fromFirst (refuses : Refuses name combine Refused report) (space : Space) (first : Term)
    (rest : List Term) :
    FailsAtLeftmost (fun place argument => argument.NotNumeric ∨ 0 < place ∧ Refused argument) report
      (first :: rest) (fromFirst name combine space (first :: rest)) := by
  rw [Builtins.fromFirst, readNumber]
  cases reads : first.number? with
  | none =>
    obtain ⟨-, reports⟩ := refuses.unread first reads
    rw [← reports]
    exact .here (.inl reads) rest
  | some start =>
    refine .later (by simp [NotNumeric, reads]) ?_
    refine ((refuses.accumulate start rest).map Term.number).congr fun place argument => ?_
    simp only [Nat.succ_pos, true_and]
    exact (or_iff_right_of_imp fun unread => (refuses.unread argument unread).1).symm

end Folding

/-! ## The four operations -/

/-- What division says of an argument that it cannot use. -/
def divisionProblem (argument : Term) : GroundedError :=
  if argument.NotNumeric then .notANumber "&/" argument else .execution "&/" "division by zero"

/-- Division refuses zero besides what is no number. -/
theorem refuses_divide :
    Refuses "&/" divide (fun argument => argument.NotNumeric ∨ argument.SpellsZero) divisionProblem where
  unread argument notNumeric := ⟨.inl notNumeric, if_pos notNumeric⟩
  refused argument value reads refused left := by
    have numeric : ¬ argument.NotNumeric := by simp [NotNumeric, reads]
    obtain ⟨zero, readsZero, isZero⟩ := refused.resolve_left numeric
    obtain rfl : value = zero := Option.some.inj (reads.symm.trans readsZero)
    rw [divide, if_pos (Number.beq_zero_iff.2 isZero), divisionProblem, if_neg numeric]
  taken argument value reads taken left := by
    have notZero : ¬ (value == 0) = true := fun isZero =>
      taken (.inr ⟨value, reads, Number.beq_zero_iff.1 isZero⟩)
    exact ⟨left / value, by rw [divide, if_neg notZero]⟩

/-- **Arithmetic fails at the leftmost argument that it cannot use.** Sums and products fail just if an argument is
not numeric, and tell of the leftmost such argument.  So do differences, which need an argument at all.  Quotients
need one too, and fail just if an argument is not numeric or one after the first is zero, with the error for the
leftmost such argument. -/
theorem arithmetic_fails (space : Space) :
    (∀ arguments, FailsAtLeftmost (fun _ => NotNumeric) (.notANumber "&+") arguments
      (registry.execute space "&+" arguments)) ∧
    (∀ arguments, FailsAtLeftmost (fun _ => NotNumeric) (.notANumber "&*") arguments
      (registry.execute space "&*" arguments)) ∧
    registry.execute space "&-" [] = .error (.arity "&-" "at least 1" 0) ∧
    (∀ first rest, FailsAtLeftmost (fun _ => NotNumeric) (.notANumber "&-") (first :: rest)
      (registry.execute space "&-" (first :: rest))) ∧
    registry.execute space "&/" [] = .error (.arity "&/" "at least 1" 0) ∧
    ∀ first rest,
      FailsAtLeftmost (fun place argument => argument.NotNumeric ∨ 0 < place ∧ argument.SpellsZero)
        divisionProblem (first :: rest) (registry.execute space "&/" (first :: rest)) := by
  refine ⟨fun arguments => (refuses_notNumeric "&+" (· + ·)).fromSeed 0 space arguments,
    fun arguments => (refuses_notNumeric "&*" (· * ·)).fromSeed 1 space arguments, rfl, ?_, rfl, ?_⟩
  · intro first rest
    refine ((refuses_notNumeric "&-" (· - ·)).fromFirst space first rest).congr fun place argument => ?_
    exact or_iff_left_of_imp And.right
  · intro first rest
    refine (refuses_divide.fromFirst space first rest).congr fun place argument => ?_
    rw [and_or_left, ← or_assoc, or_iff_left_of_imp And.right]

/-- A divisor that is zero comes before one that is not numeric. -/
example : registry.execute ∅ "&/" [.atom "0", .atom "2", .atom "-0", .atom "x"] =
    .error (.execution "&/" "division by zero") := rfl

end Builtins

end TermSpace
