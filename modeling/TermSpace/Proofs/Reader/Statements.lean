import TermSpace.Proofs.Reader.Concatenation
import TermSpace.Proofs.Reader.RoundTrip

/-!
# The terms of a program

The statements of a program are read by the machine that reads single terms, except that an evaluation mark may
be taken off the first token.  What is left of a symbol after its mark is a symbol still.  So all tokens that
the machine meets have readable names, the tokens of each statement derive its term, and the terms of a program
are readable (`readable_of_readProgram`): each of them is what its canonical text is read as.

What is kept by every token holds of the whole program (`forall_of_readStatements`), whatever it is that is kept of
the statement under way.
-/

namespace TermSpace.Reader

set_option autoImplicit false

/-- Every token that is an atom by itself has a readable name. -/
def ReadableNames (tokens : List Token) : Prop :=
  ∀ token ∈ tokens, ∀ name, Names token name → ReadableName name

/-- One token more. -/
theorem ReadableNames.concat {tokens : List Token} {token : Token} (before : ReadableNames tokens)
    (last : ReadableNames [token]) : ReadableNames (tokens ++ [token]) := by
  intro other member
  rcases List.mem_append.1 member with inside | here
  · exact before other inside
  · exact last other here

/-- What is left of a symbol after its evaluation mark is a symbol. -/
theorem ReadableNames.takeMark {placed left : Placed} (names : ReadableNames [placed.token])
    (leaves : (takeMark placed).2 = some left) : ReadableNames [left.token] := by
  obtain ⟨token, position⟩ := placed
  cases token with
  | symbol text =>
    simp only [Reader.takeMark] at leaves
    split at leaves
    · cases leaves
    · next rest notAlone shown =>
      cases leaves
      have readable := names (.symbol text) List.mem_cons_self text (.symbol text)
      rw [ReadableName, shown] at readable
      rcases readable with ⟨_, row⟩ | ⟨body, _, quoted⟩
      · refine fun token member name spelled => .inl ?_
        obtain rfl := List.mem_singleton.1 member
        cases spelled
        rw [String.toList_ofList]
        refine ⟨?_, fun character inside => row character (List.mem_cons_of_mem _ inside)⟩
        rintro rfl
        exact notAlone rfl
      · exact absurd (List.cons.inj quoted).1 (by decide)
    · cases leaves
      exact names
  | _ =>
    cases leaves
    exact names

/-- **The account of a statement under way:** its stage is reached by tokens with readable names. -/
def Accounted : Underway → Prop
  | none => True
  | some (_, stage) => ∃ read, Reached stage read ∧ ReadableNames read

/-- **One token** keeps the account, and a term that it completes is readable. -/
theorem Accounted.advance {current next : Underway} {placed : Placed} {completed? : Option Statement}
    (accounted : Accounted current) (names : ReadableNames [placed.token])
    (advances : advanceStatement current placed = .ok (next, completed?)) :
    Accounted next ∧ ∀ statement ∈ completed?, Readable statement.term := by
  have start : ∃ read, Reached Stage.start read ∧ ReadableNames read :=
    ⟨[], .awaiting .nil, by simp [ReadableNames]⟩
  have met : (∃ read, Reached (meet current placed).2.1 read ∧ ReadableNames read) ∧
      ∀ token, (meet current placed).2.2 = some token → ReadableNames [token.token] := by
    cases current with
    | some state =>
      refine ⟨accounted, ?_⟩
      rintro _ ⟨⟩
      exact names
    | none => exact ⟨start, fun token leaves => names.takeMark leaves⟩
  obtain ⟨⟨read, reached, namesRead⟩, namesLeft⟩ := met
  rw [advanceStatement] at advances
  generalize meet current placed = meeting at advances reached namesLeft
  obtain ⟨evaluate, stage, token?⟩ := meeting
  cases token? with
  | none =>
    cases advances
    exact ⟨⟨read, reached, namesRead⟩, by simp⟩
  | some token =>
    have namesAll := namesRead.concat (namesLeft token rfl)
    dsimp only at advances
    cases progresses : Reader.advance stage token with
    | error problem => simp [progresses] at advances
    | ok progress =>
      have arrives := Reached.arrives_advance reached progresses
      rw [progresses] at advances
      cases progress with
      | reading stage =>
        cases advances
        exact ⟨⟨_, arrives, namesAll⟩, by simp⟩
      | done term =>
        cases advances
        refine ⟨trivial, ?_⟩
        rintro _ ⟨⟩
        exact Derives.readable arrives namesAll

/-- **A program gives good statements** if every token keeps what is known of the statement under way and
completes no statement but a good one. -/
theorem forall_of_readStatements (Known : Underway → Prop) {Fits : Token → Prop} {Good : Statement → Prop}
    (step : ∀ {current next : Underway} {placed : Placed} {completed? : Option Statement}, Known current →
      Fits placed.token → advanceStatement current placed = .ok (next, completed?) →
        Known next ∧ ∀ statement ∈ completed?, Good statement)
    {length : Nat} {row : List Placed} : ∀ {current : Underway} {statements : List Statement}, Known current →
      (∀ token ∈ row.map Placed.token, Fits token) → readStatements length current row = .ok statements →
      ∀ statement ∈ statements, Good statement := by
  induction row with
  | nil =>
    intro current statements _ _ reads
    cases current with
    | none =>
      cases reads
      simp
    | some state => cases reads
  | cons placed row ih =>
    intro current statements known fits reads
    rw [readStatements_cons] at reads
    rw [List.map_cons, List.forall_mem_cons] at fits
    cases advances : advanceStatement current placed with
    | error problem => simp [advances, Except.bind] at reads
    | ok result =>
      obtain ⟨next, completed?⟩ := result
      rw [advances] at reads
      obtain ⟨knownNext, completed⟩ := step known fits.1 advances
      cases inRest : readStatements length next row with
      | error problem => simp [inRest, Except.bind, Except.map] at reads
      | ok others =>
        simp only [Except.bind, inRest, Except.map, Except.ok.injEq] at reads
        subst reads
        intro statement member
        rcases List.mem_append.1 member with first | other
        · exact completed statement (Option.mem_toList.1 first)
        · exact ih knownNext fits.2 inRest statement other

/-- **The terms of a program are readable.** -/
theorem readable_of_readProgram {text : String} {statements : List Statement}
    (reads : readProgram text = .ok statements) :
    ∀ statement ∈ statements, Readable statement.term := by
  have tokenizes : Tokenizes text.toList ((scan text).map Placed.token) :=
    tokenizes_iff.2 ⟨rfl, finished_of_readStatements reads⟩
  have nothing : Accounted none := trivial
  refine forall_of_readStatements Accounted (fun known fits advances => ?_) nothing
    tokenizes.readableName reads
  exact known.advance (List.forall_mem_singleton.2 fits) advances

end TermSpace.Reader
