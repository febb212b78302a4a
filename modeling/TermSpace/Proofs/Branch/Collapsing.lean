import Mathlib.Data.List.Basic
import TermSpace.Branch

/-!
# Collapsing with a script

A source of choices goes from one collapse to the next.  Of the branches that are collapsed one after another only the
superpositions with values are choices; all others leave the source as it is.  So with a script the place of a pick is
the number of choices before it, however many other branches come in between (`collapseEach_replays`).

Where a script stands is known up to the machine word in which it counts (`Scripted.Stands`), and a script without
picks does not count at all.  A single collapse takes a script on by one choice or none (`Stands.collapse`), and so do
all collapses in a row by as many choices as there are among the branches (`Stands.collapseEach`).
-/

namespace TermSpace

set_option autoImplicit false

namespace Branch

variable {α σ : Type}

/-- Whether collapsing a branch is a choice. -/
def isChoice : Branch α → Bool
  | .super (_ :: _) => true
  | _ => false

section Chooser

variable [Chooser σ]

/-- A source that keeps its promise: what it gives is below the number of values. -/
def Chooser.Keeps (source : σ) : Prop := ∀ count, 0 < count → (Chooser.choose source count).1 < count

/-- **Collapsing branches one after another,** each with the source that the one before it leaves. -/
def collapseEach : List (Branch α) → σ → List (Option α) × σ
  | [], source => ([], source)
  | branch :: rest, source =>
    let (outcome, next) := branch.collapse source
    let (outcomes, last) := collapseEach rest next
    (outcome :: outcomes, last)

/-! ## One collapse -/

/-- A superposition with values is collapsed to the value that is chosen. -/
theorem collapse_choice {held : List α} (inhabited : held ≠ []) (source : σ) :
    (super held).collapse source =
      (held[(Chooser.choose source held.length).1]?, (Chooser.choose source held.length).2) := by
  cases held with
  | nil => exact absurd rfl inhabited
  | cons value others => rfl

/-- **A branch with values** is collapsed to one of them. -/
theorem Chooser.Keeps.collapse_mem {source : σ} (keeps : Chooser.Keeps source) {branch : Branch α}
    (inhabited : branch.values ≠ []) : ∃ value ∈ branch.values, (branch.collapse source).1 = some value := by
  cases branch with
  | value held => exact ⟨held, List.mem_singleton_self held, rfl⟩
  | super held =>
    change held ≠ [] at inhabited
    have below := keeps held.length (List.length_pos_iff.2 inhabited)
    rw [collapse_choice inhabited, List.getElem?_eq_getElem below]
    exact ⟨_, List.getElem_mem below, rfl⟩

/-! ## Collapses in a row -/

/-- There is one outcome for each branch. -/
theorem length_collapseEach (branches : List (Branch α)) (source : σ) :
    (collapseEach branches source).1.length = branches.length := by
  induction branches generalizing source with
  | nil => rfl
  | cons branch rest ih => exact congrArg (· + 1) (ih (branch.collapse source).2)

/-- **Each branch is collapsed** with the source that those before it leave. -/
theorem getElem?_collapseEach (branches : List (Branch α)) (source : σ) (place : Nat) :
    (collapseEach branches source).1[place]? =
      branches[place]?.map fun branch =>
        (branch.collapse (collapseEach (branches.take place) source).2).1 := by
  induction branches generalizing source place with
  | nil => rfl
  | cons branch rest ih =>
    cases place with
    | zero => rfl
    | succ place => exact ih (branch.collapse source).2 place

end Chooser

end Branch

namespace Scripted

open Branch

variable {α : Type} {script : Scripted} {picks : List Nat} {before : Nat}

/-- The pick of a choice, which is nought without picks. -/
def pickAt (picks : List Nat) (choice : Nat) : Nat := picks[choice % picks.length]?.getD 0

/-- **The script stands before a choice** of some picks.  It counts in a machine word, and not at all without picks. -/
structure Stands (script : Scripted) (picks : List Nat) (before : Nat) : Prop where
  replays : script.picks = picks
  counts : picks ≠ [] → script.made = UInt64.ofNat before

theorem stands_ofPicks (picks : List Nat) : (ofPicks picks).Stands picks 0 := ⟨rfl, fun _ => rfl⟩

/-! ## One choice -/

/-- A script keeps its promise. -/
theorem keeps (script : Scripted) : Chooser.Keeps script := by
  intro count positive
  change (script.choose count).1 < count
  rw [choose]
  split
  · exact positive
  · exact Nat.mod_lt _ positive

/-- The choice is the pick, reduced to the number of values. -/
theorem Stands.choose_fst (stands : script.Stands picks before) (fits : before < UInt64.size) (count : Nat) :
    (Chooser.choose script count).1 = pickAt picks before % count := by
  change (script.choose count).1 = _
  rw [choose, stands.replays, pickAt]
  -- Without picks nothing is known of the count, and nothing depends on it.
  by_cases empty : picks = []
  · simp [empty]
  · rw [stands.counts empty, UInt64.toNat_ofNat_of_lt' fits]
    have inside : before % picks.length < picks.length := Nat.mod_lt _ (List.length_pos_iff.2 empty)
    simp [List.getElem?_eq_getElem inside]

/-- After a choice the script stands before the next one. -/
theorem Stands.choose_snd (stands : script.Stands picks before) (count : Nat) :
    (Chooser.choose script count).2.Stands picks (before + 1) := by
  change (script.choose count).2.Stands picks (before + 1)
  rw [choose]
  split
  · next outside =>
    refine ⟨stands.replays, fun nonempty => ?_⟩
    rw [stands.replays, List.getElem?_eq_none_iff] at outside
    exact absurd (Nat.mod_lt _ (List.length_pos_iff.2 nonempty)) (Nat.not_lt.2 outside)
  · refine ⟨stands.replays, fun nonempty => ?_⟩
    -- The count may go round here; only reading a pick asks that it has not.
    rw [UInt64.ofNat_add, ← stands.counts nonempty]
    rfl

/-- **A collapse** takes the script on by one choice or none. -/
theorem Stands.collapse (stands : script.Stands picks before) (branch : Branch α) :
    (branch.collapse script).2.Stands picks (before + if branch.isChoice then 1 else 0) := by
  match branch with
  | .value _ => exact stands
  | .super [] => exact stands
  | .super (first :: others) => exact stands.choose_snd (first :: others).length

/-! ## Choices in a row -/

/-- **Collapses in a row** take the script on by the choices among the branches. -/
theorem Stands.collapseEach (stands : script.Stands picks before) (branches : List (Branch α)) :
    (collapseEach branches script).2.Stands picks (before + branches.countP isChoice) := by
  induction branches generalizing script before with
  | nil => exact stands
  | cons branch rest ih =>
    rw [List.countP_cons, Nat.add_comm (rest.countP isChoice), ← Nat.add_assoc]
    exact ih (stands.collapse branch)

end Scripted

namespace Branch

variable {α : Type}

/-- **Collapsing branches in a row replays the picks.** A value by itself comes out as it is, and nothing comes out of
a superposition of nothing.  The pick for a superposition with values is at the place that is the number of choices
before it, reduced to the number of picks, and reduced to the number of values it is the index of what comes out; a
script without picks always takes the first value.  The number of choices has to fit the word in which they are
counted.  Wherever a script stands, values by themselves and superpositions of nothing leave it as it is, and a branch
with values is collapsed to one of them. -/
theorem collapseEach_replays (picks : List Nat) (branches : List (Branch α)) :
    (collapseEach branches (Scripted.ofPicks picks)).1.length = branches.length ∧
    (∀ (place : Nat) value, branches[place]? = some (.value value) →
      (collapseEach branches (Scripted.ofPicks picks)).1[place]? = some (some value)) ∧
    (∀ place : Nat, branches[place]? = some (.super []) →
      (collapseEach branches (Scripted.ofPicks picks)).1[place]? = some none) ∧
    (∀ (place : Nat) held, branches[place]? = some (.super held) → held ≠ [] →
      (branches.take place).countP isChoice < UInt64.size →
      ∃ value ∈ held,
        held[Scripted.pickAt picks ((branches.take place).countP isChoice) % held.length]? = some value ∧
        (collapseEach branches (Scripted.ofPicks picks)).1[place]? = some (some value)) ∧
    ∀ script : Scripted,
      (∀ value : α, (Branch.value value).collapse script = (some value, script)) ∧
      (super ([] : List α)).collapse script = (none, script) ∧
      ∀ branch : Branch α, branch.values ≠ [] →
        ∃ value ∈ branch.values, (branch.collapse script).1 = some value := by
  refine ⟨length_collapseEach _ _, fun place value found => ?_, fun place found => ?_,
    fun place held found inhabited fits => ?_,
    fun script => ⟨fun _ => rfl, rfl, fun branch inhabited => script.keeps.collapse_mem inhabited⟩⟩
  · rw [getElem?_collapseEach, found]
    rfl
  · rw [getElem?_collapseEach, found]
    rfl
  · have stands := (Scripted.stands_ofPicks picks).collapseEach (branches.take place)
    rw [Nat.zero_add] at stands
    rw [getElem?_collapseEach, found, Option.map_some, collapse_choice inhabited, stands.choose_fst fits]
    have below := Nat.mod_lt (Scripted.pickAt picks ((branches.take place).countP isChoice))
      (List.length_pos_iff.2 inhabited)
    rw [List.getElem?_eq_getElem below]
    exact ⟨_, List.getElem_mem below, rfl, rfl⟩

/-- Two picks for three choices: the third choice takes the first pick again. -/
theorem collapseEach_replays_around :
    let run := collapseEach [super [1, 2, 3], value 9, super [], super [4, 5], super [6, 7]] (Scripted.ofPicks [5, 2])
    run.1[0]? = some (some 3) ∧ run.1[1]? = some (some 9) ∧ run.1[2]? = some none ∧ run.1[3]? = some (some 4) ∧
      run.1[4]? = some (some 7) := by
  obtain ⟨-, single, nothing, choice, -⟩ := collapseEach_replays [5, 2]
    [super [1, 2, 3], value 9, super [], super [4, 5], super [6, 7]]
  obtain ⟨first, -, isThird, firstOutcome⟩ := choice 0 [1, 2, 3] rfl (by decide) (by decide)
  obtain ⟨second, -, isFirst, secondOutcome⟩ := choice 3 [4, 5] rfl (by decide) (by decide)
  obtain ⟨third, -, isSecond, thirdOutcome⟩ := choice 4 [6, 7] rfl (by decide) (by decide)
  cases isThird
  cases isFirst
  cases isSecond
  exact ⟨firstOutcome, single 1 9 rfl, nothing 2 rfl, secondOutcome, thirdOutcome⟩

end Branch

end TermSpace
