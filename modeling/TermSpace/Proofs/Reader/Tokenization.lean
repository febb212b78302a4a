import TermSpace.Reader.Token

/-!
# Tokenizations

A text is split into its tokens by rules that say nothing of a scanner: parentheses and commas stand for
themselves, a text literal runs to the first double quote that is not escaped, a symbol is a longest row of
symbol characters, and blanks and comments are dropped (`Tokenizes`).  A text with an unfinished literal has
no tokenization.

Scanning finds the tokenization if there is one (`tokenizes_iff`), so that there is no more than one
(`Tokenizes.unique`).  In one direction the proof follows the rules: the scanner goes through the characters
that a rule speaks of in one mode, and is between tokens after them.  In the other direction it follows the
characters: what has been read since the mode began is part of what one rule speaks of (`Pending`).
-/

namespace TermSpace.Reader

set_option autoImplicit false

/-! ## The rules -/

/-- What may stand between the quotes of a literal: a backslash takes the next character with it. -/
inductive LiteralBody : List Char → Prop where
  | nil : LiteralBody []
  | plain {character : Char} {rest : List Char} (quote : character ≠ '"')
      (backslash : character ≠ '\\') (others : LiteralBody rest) : LiteralBody (character :: rest)
  | escape (character : Char) {rest : List Char} (others : LiteralBody rest) :
      LiteralBody ('\\' :: character :: rest)

/-- One or more symbol characters. -/
def IsSymbol (characters : List Char) : Prop :=
  characters ≠ [] ∧ ∀ character ∈ characters, isSymbolCharacter character = true

/-- A complete text literal. -/
def IsLiteral (characters : List Char) : Prop :=
  ∃ body, LiteralBody body ∧ characters = '"' :: (body ++ ['"'])

/-- A complete token: a symbol is one and a literal is one, and no literal is unfinished. -/
def Token.Complete : Token → Prop
  | .symbol text => IsSymbol text.toList
  | .literal text => IsLiteral text.toList
  | .unfinished => False
  | _ => True

/-- No symbol goes on here. -/
def NoSymbolAhead (rest : List Char) : Prop :=
  ∀ character ∈ rest.head?, isSymbolCharacter character = false

/-- The line ends here. -/
def LineEnds (rest : List Char) : Prop := ∀ character ∈ rest.head?, character = '\n'

/-- **Tokenizations.** The characters are split into the tokens, and nothing but blanks and comments is left
out. -/
inductive Tokenizes : List Char → List Token → Prop where
  | nothing : Tokenizes [] []
  | blank {character : Char} {rest : List Char} {tokens : List Token}
      (separates : Text.isBlank character = true) (others : Tokenizes rest tokens) :
      Tokenizes (character :: rest) tokens
  | comment {body rest : List Char} {tokens : List Token} (line : '\n' ∉ body)
      (ends : LineEnds rest) (others : Tokenizes rest tokens) :
      Tokenizes (';' :: (body ++ rest)) tokens
  | opening {rest : List Char} {tokens : List Token} (others : Tokenizes rest tokens) :
      Tokenizes ('(' :: rest) (.opening :: tokens)
  | closing {rest : List Char} {tokens : List Token} (others : Tokenizes rest tokens) :
      Tokenizes (')' :: rest) (.closing :: tokens)
  | comma {rest : List Char} {tokens : List Token} (others : Tokenizes rest tokens) :
      Tokenizes (',' :: rest) (.comma :: tokens)
  | literal {characters rest : List Char} {tokens : List Token} (complete : IsLiteral characters)
      (others : Tokenizes rest tokens) :
      Tokenizes (characters ++ rest) (.literal (String.ofList characters) :: tokens)
  | symbol {characters rest : List Char} {tokens : List Token} (row : IsSymbol characters)
      (longest : NoSymbolAhead rest) (others : Tokenizes rest tokens) :
      Tokenizes (characters ++ rest) (.symbol (String.ofList characters) :: tokens)

/-! ## Kinds of characters -/

theorem isSymbolCharacter_of_isBlank {character : Char} (blank : Text.isBlank character = true) :
    isSymbolCharacter character = false := by
  simp [isSymbolCharacter, blank]

/-- One symbol character is a symbol. -/
theorem IsSymbol.single {character : Char} (row : isSymbolCharacter character = true) :
    IsSymbol [character] := by
  simpa [IsSymbol] using row

/-- A character that is not of a symbol ends one. -/
theorem noSymbolAhead_cons {character : Char} (other : isSymbolCharacter character = false)
    (rest : List Char) : NoSymbolAhead (character :: rest) := by
  simpa [NoSymbolAhead] using other

/-- What a blank begins: nothing. -/
theorem begin_blank (position : Nat) {character : Char} (blank : Text.isBlank character = true) :
    begin position character = ([], .between) := by
  have apart : ∀ other, Text.isBlank other = false → character ≠ other := by
    rintro other notBlank rfl
    rw [blank] at notBlank
    cases notBlank
  simp only [begin, isSymbolCharacter_of_isBlank blank, Bool.false_eq_true, if_false,
    apart '(' (by decide), apart ')' (by decide), apart ',' (by decide), apart ';' (by decide),
    apart '"' (by decide)]

/-- A character that is not of a symbol is a blank or has a meaning of its own. -/
theorem eq_of_not_isSymbolCharacter {character : Char}
    (other : isSymbolCharacter character = false) :
    Text.isBlank character = true ∨ character = '(' ∨ character = ')' ∨ character = ',' ∨
      character = ';' ∨ character = '"' := by
  simp only [isSymbolCharacter, isDelimiter, Bool.and_eq_false_iff, Bool.not_eq_false',
    List.contains_iff_mem, List.mem_cons, List.not_mem_nil, or_false] at other
  exact other

/-! ## What scanning makes of the characters of a rule -/

/-- The number of bytes of characters. -/
def byteLength : List Char → Nat
  | [] => 0
  | character :: characters => character.utf8Size + byteLength characters

/-- A comment goes to the end of the line. -/
theorem scanFrom_comment {body : List Char} (line : '\n' ∉ body) (rest : List Char) :
    ∀ position : Nat, scanFrom .comment position (body ++ rest) =
      scanFrom .comment (position + byteLength body) rest := by
  induction body with
  | nil => simp [byteLength]
  | cons character body ih =>
    intro position
    rw [List.mem_cons, not_or] at line
    rw [List.cons_append, scanFrom, step, if_neg (Ne.symm line.1)]
    simpa [byteLength, Nat.add_assoc] using ih line.2 (position + character.utf8Size)

/-- Symbol characters are collected. -/
theorem scanFrom_symbol {more : List Char}
    (row : ∀ character ∈ more, isSymbolCharacter character = true) (rest : List Char) (start : Nat) :
    ∀ (collected : List Char) (position : Nat),
      scanFrom (.symbol start collected) position (more ++ rest) =
        scanFrom (.symbol start (more.reverse ++ collected)) (position + byteLength more) rest := by
  induction more with
  | nil => simp [byteLength]
  | cons character more ih =>
    intro collected position
    rw [List.forall_mem_cons] at row
    rw [List.cons_append, scanFrom, step, if_pos row.1]
    simpa [byteLength, Nat.add_assoc] using
      ih row.2 (character :: collected) (position + character.utf8Size)

/-- A symbol ends where no symbol character follows. -/
theorem scanFrom_symbol_end {rest : List Char} (longest : NoSymbolAhead rest) (start position : Nat)
    (collected : List Char) :
    scanFrom (.symbol start collected) position rest =
      ⟨.symbol (String.ofList collected.reverse), start⟩ :: scanFrom .between position rest := by
  cases rest with
  | nil => rfl
  | cons character rest =>
    have other := longest character rfl
    simp [scanFrom, step, other]

/-- The inside of a literal is collected. -/
theorem scanFrom_literal {body : List Char} (inside : LiteralBody body) (rest : List Char)
    (start : Nat) : ∀ (collected : List Char) (position : Nat),
      scanFrom (.literal start collected false) position (body ++ rest) =
        scanFrom (.literal start (body.reverse ++ collected) false) (position + byteLength body)
          rest := by
  induction inside with
  | nil => simp [byteLength]
  | @plain character body quote backslash _ ih =>
    intro collected position
    rw [List.cons_append, scanFrom, step, if_neg backslash, if_neg quote]
    simpa [byteLength, Nat.add_assoc] using
      ih (character :: collected) (position + character.utf8Size)
  | @escape character body _ ih =>
    intro collected position
    simpa [scanFrom, step, byteLength, Nat.add_assoc] using
      ih (character :: '\\' :: collected) (position + '\\'.utf8Size + character.utf8Size)

/-- **Scanning finds a tokenization.** -/
theorem tokens_of_tokenizes {characters : List Char} {tokens : List Token}
    (tokenizes : Tokenizes characters tokens) :
    ∀ position : Nat, (scanFrom .between position characters).map Placed.token = tokens := by
  induction tokenizes with
  | nothing => exact fun _ => rfl
  | blank separates _ ih =>
    intro position
    rw [scanFrom, step, begin_blank position separates]
    exact ih _
  | @comment body rest tokens line ends _ ih =>
    intro position
    have entered : scanFrom .between position (';' :: (body ++ rest)) =
        scanFrom .comment (position + 1) (body ++ rest) := rfl
    rw [entered, scanFrom_comment line]
    cases rest with
    | nil => exact ih 0
    | cons character rest =>
      -- the end of the line is a blank, so that it makes no difference in which mode it is met
      obtain rfl := ends character rfl
      exact ih _
  | opening _ ih => exact fun position => congrArg (Token.opening :: ·) (ih _)
  | closing _ ih => exact fun position => congrArg (Token.closing :: ·) (ih _)
  | comma _ ih => exact fun position => congrArg (Token.comma :: ·) (ih _)
  | @literal characters rest tokens complete _ ih =>
    intro position
    obtain ⟨body, inside, rfl⟩ := complete
    have entered : scanFrom .between position ('"' :: (body ++ ['"']) ++ rest) =
        scanFrom (.literal position ['"'] false) (position + 1) (body ++ '"' :: rest) := by
      rw [List.cons_append, List.append_assoc]
      rfl
    rw [entered, scanFrom_literal inside]
    simp [scanFrom, step, ih]
  | @symbol characters rest tokens row longest _ ih =>
    intro position
    obtain ⟨nonempty, row⟩ := row
    cases characters with
    | nil => exact absurd rfl nonempty
    | cons character more =>
      rw [List.forall_mem_cons] at row
      have entered : scanFrom .between position (character :: more ++ rest) =
          scanFrom (.symbol position [character]) (position + character.utf8Size) (more ++ rest) := by
        simp [scanFrom, step, begin, row.1]
      rw [entered, scanFrom_symbol row.2, scanFrom_symbol_end longest]
      simp [ih]

/-! ## What scanning is in the middle of -/

theorem LiteralBody.append {first second : List Char} (before : LiteralBody first)
    (after : LiteralBody second) : LiteralBody (first ++ second) := by
  induction before with
  | nil => exact after
  | plain quote backslash _ ih => exact .plain quote backslash ih
  | escape character _ ih => exact .escape character ih

/-- **The characters since a mode began** are the start of what one rule speaks of. -/
inductive Pending : Mode → List Char → Prop where
  | between : Pending .between []
  | comment {body : List Char} (line : '\n' ∉ body) : Pending .comment (';' :: body)
  | symbol (start : Nat) {collected : List Char} (row : IsSymbol collected.reverse) :
      Pending (.symbol start collected) collected.reverse
  | literal (start : Nat) {collected body : List Char} (inside : LiteralBody body)
      (opened : collected.reverse = '"' :: body) :
      Pending (.literal start collected false) collected.reverse
  | escaped (start : Nat) {collected body : List Char} (inside : LiteralBody body)
      (opened : collected.reverse = '"' :: (body ++ ['\\'])) :
      Pending (.literal start collected true) collected.reverse

/-- Characters pass to the rule that they belong to: whatever comes next, the tokens that scanning has found
and those of the characters since the mode began are the tokens of all the characters. -/
def Passes (characters : List Char) (found : List Placed × Mode) : Prop :=
  ∃ begun, Pending found.2 begun ∧ ∀ (rest : List Char) (later : List Token),
    Tokenizes (begun ++ rest) later →
      Tokenizes (characters ++ rest) (found.1.map Placed.token ++ later)

/-- A first character. -/
theorem passes_begin (position : Nat) (character : Char) :
    Passes [character] (begin position character) := by
  by_cases row : isSymbolCharacter character = true
  · rw [begin, if_pos row]
    exact ⟨_, .symbol position (.single row), fun _ _ others => others⟩
  · rcases eq_of_not_isSymbolCharacter (Bool.not_eq_true _ ▸ row) with
      blank | rfl | rfl | rfl | rfl | rfl
    · rw [begin_blank position blank]
      exact ⟨[], .between, fun _ _ others => .blank blank others⟩
    · exact ⟨[], .between, fun _ _ others => .opening others⟩
    · exact ⟨[], .between, fun _ _ others => .closing others⟩
    · exact ⟨[], .between, fun _ _ others => .comma others⟩
    · exact ⟨_, .comment (by simp), fun _ _ others => others⟩
    · exact ⟨_, .literal position .nil rfl, fun _ _ others => others⟩

/-- **One character** after those since the mode began. -/
theorem Pending.passes_step {mode : Mode} {begun : List Char} (pending : Pending mode begun)
    (position : Nat) (character : Char) :
    Passes (begun ++ [character]) (step mode position character) := by
  cases pending with
  | between => exact passes_begin position character
  | @comment body line =>
    rw [step]
    split
    · next same =>
      subst same
      refine ⟨[], .between, fun rest later others => ?_⟩
      have ended : Tokenizes ('\n' :: rest) later := .blank (by decide) others
      simpa using Tokenizes.comment line (by simp [LineEnds]) ended
    · next other =>
      have more : '\n' ∉ body ++ [character] := by simp [line, Ne.symm other]
      exact ⟨_, .comment more, fun _ _ others => others⟩
  | @symbol start collected row =>
    rw [step]
    split
    · next more =>
      have longer : IsSymbol (character :: collected).reverse := by
        rw [List.reverse_cons]
        exact ⟨by simp, by simpa [or_imp, forall_and, more] using row.2⟩
      refine ⟨_, .symbol start longer, fun _ _ others => ?_⟩
      simpa using others
    · next other =>
      obtain ⟨next, pendingNext, passes⟩ := passes_begin position character
      refine ⟨next, pendingNext, fun rest later others => ?_⟩
      have longest := noSymbolAhead_cons (Bool.not_eq_true _ ▸ other) rest
      simpa using Tokenizes.symbol row longest (passes rest later others)
  | @literal start collected body inside opened =>
    rw [step]
    split
    · next same =>
      subst same
      have begun : ('\\' :: collected).reverse = '"' :: (body ++ ['\\']) := by simp [opened]
      refine ⟨_, .escaped start inside begun, fun _ _ others => ?_⟩
      simpa using others
    · next backslash =>
      split
      · next same =>
        subst same
        refine ⟨[], .between, fun rest later others => ?_⟩
        have complete : IsLiteral (collected.reverse ++ ['"']) := ⟨body, inside, by simp [opened]⟩
        simpa using Tokenizes.literal complete others
      · next quote =>
        have begun : (character :: collected).reverse = '"' :: (body ++ [character]) := by
          simp [opened]
        refine ⟨_, .literal start (inside.append (.plain quote backslash .nil)) begun,
          fun _ _ others => ?_⟩
        simpa using others
  | @escaped start collected body inside opened =>
    rw [step]
    have begun : (character :: collected).reverse = '"' :: (body ++ ['\\', character]) := by
      simp [opened]
    refine ⟨_, .literal start (inside.append (.escape character .nil)) begun,
      fun _ _ others => ?_⟩
    simpa using others

/-- **What scanning finds is a tokenization,** of the characters since the mode began and the rest, unless a
literal is unfinished. -/
theorem tokenizes_of_scanFrom : ∀ (rest : List Char) {mode : Mode} {begun : List Char}
    (position : Nat), Pending mode begun →
      .unfinished ∉ (scanFrom mode position rest).map Placed.token →
      Tokenizes (begun ++ rest) ((scanFrom mode position rest).map Placed.token)
  | [], mode, begun, position, pending, finished => by
    cases pending with
    | between => exact .nothing
    | comment line => exact .comment line (by simp [LineEnds]) .nothing
    | symbol start row => exact .symbol row (by simp [NoSymbolAhead]) .nothing
    | literal => exact absurd List.mem_cons_self finished
    | escaped => exact absurd List.mem_cons_self finished
  | character :: rest, mode, begun, position, pending, finished => by
    obtain ⟨next, pendingNext, passes⟩ := pending.passes_step position character
    rw [scanFrom, List.map_append] at finished ⊢
    rw [List.mem_append, not_or] at finished
    have later := tokenizes_of_scanFrom rest _ pendingNext finished.2
    simpa using passes rest _ later

/-! ## Tokenizations of a text -/

/-- **The tokens of a text are complete.** -/
theorem Tokenizes.complete {characters : List Char} {tokens : List Token}
    (tokenizes : Tokenizes characters tokens) : ∀ token ∈ tokens, token.Complete := by
  induction tokenizes with
  | nothing => simp
  | blank _ _ ih => exact ih
  | comment _ _ _ ih => exact ih
  | opening _ ih => exact List.forall_mem_cons.2 ⟨trivial, ih⟩
  | closing _ ih => exact List.forall_mem_cons.2 ⟨trivial, ih⟩
  | comma _ ih => exact List.forall_mem_cons.2 ⟨trivial, ih⟩
  | literal complete _ ih => exact List.forall_mem_cons.2 ⟨by simpa [Token.Complete] using complete, ih⟩
  | symbol row _ _ ih => exact List.forall_mem_cons.2 ⟨by simpa [Token.Complete] using row, ih⟩

/-- No rule makes an unfinished literal. -/
theorem Tokenizes.finished {characters : List Char} {tokens : List Token}
    (tokenizes : Tokenizes characters tokens) : .unfinished ∉ tokens :=
  fun member => tokenizes.complete _ member

/-- **The tokenization of a text** is what scanning finds, if that has no unfinished literal in it. -/
theorem tokenizes_iff {text : String} {tokens : List Token} :
    Tokenizes text.toList tokens ↔
      (scan text).map Placed.token = tokens ∧ .unfinished ∉ tokens := by
  constructor
  · intro tokenizes
    exact ⟨tokens_of_tokenizes tokenizes 0, tokenizes.finished⟩
  · rintro ⟨rfl, finished⟩
    exact tokenizes_of_scanFrom text.toList 0 .between finished

/-- A text has no more than one tokenization. -/
theorem Tokenizes.unique {characters : List Char} {tokens others : List Token}
    (first : Tokenizes characters tokens) (second : Tokenizes characters others) : tokens = others := by
  rw [← tokens_of_tokenizes first 0, tokens_of_tokenizes second 0]

end TermSpace.Reader
