/-!
# Finite dictionaries in key order

Bindings, type substitutions, declarations and the tables of named functions are all finite maps,
and wherever one is listed the answer goes by the order of its keys.  A dictionary therefore *is*
its list of entries in strictly ascending key order: the order is part of the value, two
dictionaries with the same look-ups are the same dictionary, and no other data is kept.

The view of a dictionary is `get?`.  Each operation has one equation through it: `get?_empty`,
`get?_insert`, `get?_erase`.
-/

namespace TermSpace

set_option autoImplicit false

/-- A strict linear order, as much of it as keeping entries sorted needs. -/
class KeyOrder (κ : Type) [LT κ] : Prop where
  irrefl : ∀ key : κ, ¬ key < key
  trans : ∀ {first second third : κ}, first < second → second < third → first < third
  total : ∀ {first second : κ}, ¬ first < second → first ≠ second → second < first

instance : KeyOrder Nat where
  irrefl := Nat.lt_irrefl
  trans := Nat.lt_trans
  total := fun notBelow different =>
    Nat.lt_of_le_of_ne (Nat.le_of_not_lt notBelow) (Ne.symm different)

instance : KeyOrder String where
  irrefl := String.lt_irrefl
  trans := String.lt_trans
  total := fun notBelow different => by
    refine Decidable.byContradiction fun notAbove => different ?_
    exact String.le_antisymm (String.not_lt.1 notAbove) (String.not_lt.1 notBelow)

/-- A finite map: its entries, in strictly ascending order of their keys. -/
structure Dict (κ : Type) [LT κ] (α : Type) where
  entries : List (κ × α)
  ascending : entries.Pairwise fun earlier later => earlier.1 < later.1

namespace Dict

variable {κ α : Type} [LT κ]

instance [DecidableEq κ] [DecidableEq α] : DecidableEq (Dict κ α) := fun first second =>
  if same : first.entries = second.entries then
    isTrue (by cases first; cases second; cases same; rfl)
  else
    isFalse fun equal => same (equal ▸ rfl)

/-- The dictionary without entries. -/
def empty : Dict κ α := ⟨[], .nil⟩

instance : EmptyCollection (Dict κ α) := ⟨empty⟩

instance : Inhabited (Dict κ α) := ⟨empty⟩

/-- The number of entries. -/
def size (dict : Dict κ α) : Nat := dict.entries.length

/-- Whether there is no entry. -/
def isEmpty (dict : Dict κ α) : Bool := dict.entries.isEmpty

/-- The keys, ascending. -/
def keys (dict : Dict κ α) : List κ := dict.entries.map (·.1)

/-- The values, in the order of their keys. -/
def values (dict : Dict κ α) : List α := dict.entries.map (·.2)

/-- The dictionary with every value replaced. -/
def mapValues {β : Type} (change : α → β) (dict : Dict κ α) : Dict κ β :=
  ⟨dict.entries.map fun entry => (entry.1, change entry.2),
    List.pairwise_map.2 dict.ascending⟩

section LookUp

variable [DecidableEq κ]

/-- The value of the first entry under a key. -/
def lookUp (key : κ) : List (κ × α) → Option α
  | [] => none
  | entry :: rest => if entry.1 = key then some entry.2 else lookUp key rest

/-- The value under a key. -/
def get? (dict : Dict κ α) (key : κ) : Option α := lookUp key dict.entries

/-- Whether a key has a value. -/
def contains (dict : Dict κ α) (key : κ) : Bool := (dict.get? key).isSome

@[simp] theorem get?_empty (key : κ) : (∅ : Dict κ α).get? key = none := rfl

omit [LT κ] in
theorem lookUp_map {β : Type} (change : α → β) (key : κ) : ∀ entries : List (κ × α),
    lookUp key (entries.map fun entry => (entry.1, change entry.2)) =
      (lookUp key entries).map change
  | [] => rfl
  | entry :: rest => by
    simp only [List.map_cons, lookUp, lookUp_map change key rest]
    split <;> rfl

omit [LT κ] in
theorem mem_keys_of_lookUp {key : κ} {value : α} : ∀ {entries : List (κ × α)},
    lookUp key entries = some value → key ∈ entries.map (·.1)
  | [], found => by simp [lookUp] at found
  | entry :: rest, found => by
    rw [List.map_cons, List.mem_cons]
    by_cases here : entry.1 = key
    · exact .inl here.symm
    · rw [lookUp, if_neg here] at found
      exact .inr (mem_keys_of_lookUp found)

/-- What has a value is a key. -/
theorem mem_keys_of_get? {dict : Dict κ α} {key : κ} {value : α} (found : dict.get? key = some value) :
    key ∈ dict.keys := mem_keys_of_lookUp found

/-- **Replacement of values through the view.** -/
theorem get?_mapValues {β : Type} (change : α → β) (dict : Dict κ α) (key : κ) :
    (dict.mapValues change).get? key = (dict.get? key).map change :=
  lookUp_map change key dict.entries

end LookUp

section Update

variable [DecidableEq κ] [DecidableLT κ]

/-- Put an entry at its place in an ascending list, over an entry with the same key. -/
def place (key : κ) (value : α) : List (κ × α) → List (κ × α)
  | [] => [(key, value)]
  | entry :: rest =>
    if key < entry.1 then (key, value) :: entry :: rest
    else if key = entry.1 then (key, value) :: rest
    else entry :: place key value rest

/-- Every entry after placing is the new one or was there before. -/
theorem mem_place {key : κ} {value : α} {member : κ × α} :
    ∀ {entries : List (κ × α)}, member ∈ place key value entries →
      member = (key, value) ∨ member ∈ entries
  | [], inside => by simpa [place] using inside
  | entry :: rest, inside => by
    unfold place at inside
    split at inside
    · simpa using inside
    · split at inside
      · rcases List.mem_cons.1 inside with new | old
        · exact .inl new
        · exact .inr (List.mem_cons_of_mem _ old)
      · rcases List.mem_cons.1 inside with first | later
        · exact .inr (first ▸ List.mem_cons_self)
        · rcases mem_place later with new | old
          · exact .inl new
          · exact .inr (List.mem_cons_of_mem _ old)

variable [KeyOrder κ]

theorem pairwise_place {key : κ} {value : α} :
    ∀ {entries : List (κ × α)}, entries.Pairwise (fun earlier later => earlier.1 < later.1) →
      (place key value entries).Pairwise fun earlier later => earlier.1 < later.1
  | [], _ => by simp [place]
  | entry :: rest, sorted => by
    have ⟨below, tail⟩ := List.pairwise_cons.1 sorted
    unfold place
    split
    · next before =>
      refine List.pairwise_cons.2 ⟨fun member inside => ?_, sorted⟩
      rcases List.mem_cons.1 inside with first | later
      · exact first ▸ before
      · exact KeyOrder.trans before (below member later)
    · next notBefore =>
      split
      · next same =>
        exact List.pairwise_cons.2 ⟨fun member inside => same ▸ below member inside, tail⟩
      · next different =>
        refine List.pairwise_cons.2 ⟨fun member inside => ?_, pairwise_place tail⟩
        rcases mem_place inside with new | old
        · exact new ▸ KeyOrder.total notBefore different
        · exact below member old

/-- The dictionary with `value` under `key`, whatever stood there before. -/
def insert (dict : Dict κ α) (key : κ) (value : α) : Dict κ α :=
  ⟨place key value dict.entries, pairwise_place dict.ascending⟩

omit [KeyOrder κ] in
theorem lookUp_place (key other : κ) (value : α) :
    ∀ entries : List (κ × α), lookUp other (place key value entries) =
      if key = other then some value else lookUp other entries
  | [] => by simp [place, lookUp]
  | entry :: rest => by
    unfold place
    split
    · simp [lookUp]
    · split
      · next same =>
        subst same
        simp only [lookUp]
        split <;> simp_all
      · next different =>
        simp only [lookUp, lookUp_place key other value rest]
        split
        · next here =>
          have apart : key ≠ other := fun same => different (same.trans here.symm)
          simp [apart]
        · rfl

/-- **Insertion through the view.** -/
theorem get?_insert (dict : Dict κ α) (key other : κ) (value : α) :
    (dict.insert key value).get? other = if key = other then some value else dict.get? other :=
  lookUp_place key other value dict.entries

omit [KeyOrder κ] in
theorem length_place {key : κ} {value : α} :
    ∀ {entries : List (κ × α)}, lookUp key entries = none →
      (place key value entries).length = entries.length + 1
  | [], _ => rfl
  | entry :: rest, missing => by
    have apart : entry.1 ≠ key := by
      intro same
      simp [lookUp, same] at missing
    have missingBelow : lookUp key rest = none := by simpa [lookUp, apart] using missing
    unfold place
    split
    · rfl
    · simp [Ne.symm apart, length_place missingBelow]

theorem size_insert_of_get?_eq_none {dict : Dict κ α} {key : κ} (new : dict.get? key = none)
    (value : α) : (dict.insert key value).size = dict.size + 1 :=
  length_place new

end Update

section Removal

variable [DecidableEq κ]

/-- The dictionary without any entry under `key`. -/
def erase (dict : Dict κ α) (key : κ) : Dict κ α :=
  ⟨dict.entries.filter fun entry => entry.1 ≠ key, dict.ascending.filter _⟩

omit [LT κ] in
theorem lookUp_filter_ne (key other : κ) :
    ∀ entries : List (κ × α), lookUp other (entries.filter fun entry => entry.1 ≠ key) =
      if key = other then none else lookUp other entries
  | [] => by simp [lookUp]
  | entry :: rest => by
    by_cases here : entry.1 = key
    · rw [List.filter_cons_of_neg (by simpa using here), lookUp_filter_ne key other rest]
      split
      · rfl
      · next apart => simp [lookUp, show entry.1 ≠ other from fun same => apart (here ▸ same)]
    · rw [List.filter_cons_of_pos (by simpa using here)]
      simp only [lookUp, lookUp_filter_ne key other rest]
      split
      · next found =>
        simp [show key ≠ other from fun same => here (found.trans same.symm)]
      · rfl

/-- **Removal through the view.** -/
theorem get?_erase (dict : Dict κ α) (key other : κ) :
    (dict.erase key).get? other = if key = other then none else dict.get? other :=
  lookUp_filter_ne key other dict.entries

end Removal

section Extensionality

variable [DecidableEq κ] [KeyOrder κ]

/-- A key below all keys of a list has no value in it. -/
theorem lookUp_eq_none_of_above {key : κ} :
    ∀ {entries : List (κ × α)}, (∀ member ∈ entries, key < member.1) → lookUp key entries = none
  | [], _ => rfl
  | entry :: rest, above => by
    have different : entry.1 ≠ key := fun same =>
      KeyOrder.irrefl key (same ▸ above entry List.mem_cons_self)
    simp only [lookUp, different, if_false]
    exact lookUp_eq_none_of_above fun member inside => above member (List.mem_cons_of_mem _ inside)

theorem entries_eq_of_lookUp_eq :
    ∀ {first second : List (κ × α)},
      first.Pairwise (fun earlier later => earlier.1 < later.1) →
      second.Pairwise (fun earlier later => earlier.1 < later.1) →
      (∀ key, lookUp key first = lookUp key second) → first = second
  | [], [], _, _, _ => rfl
  | [], entry :: _, _, _, same => by simpa [lookUp] using same entry.1
  | entry :: _, [], _, _, same => by simpa [lookUp] using same entry.1
  | (key₁, value₁) :: rest₁, (key₂, value₂) :: rest₂, sorted₁, sorted₂, same => by
    have ⟨below₁, tail₁⟩ := List.pairwise_cons.1 sorted₁
    have ⟨below₂, tail₂⟩ := List.pairwise_cons.1 sorted₂
    have keysMeet : key₁ = key₂ := by
      refine Decidable.byContradiction fun apart => ?_
      have at₁ := same key₁
      have at₂ := same key₂
      simp only [lookUp, if_true, if_neg apart, if_neg (Ne.symm apart)] at at₁ at₂
      by_cases before : key₁ < key₂
      · rw [lookUp_eq_none_of_above fun member inside =>
          KeyOrder.trans before (below₂ member inside)] at at₁
        simp at at₁
      · have after := KeyOrder.total before apart
        rw [lookUp_eq_none_of_above fun member inside =>
          KeyOrder.trans after (below₁ member inside)] at at₂
        simp at at₂
    subst keysMeet
    have valuesMeet : value₁ = value₂ := by simpa [lookUp] using same key₁
    subst valuesMeet
    congr 1
    refine entries_eq_of_lookUp_eq tail₁ tail₂ fun key => ?_
    by_cases here : key₁ = key
    · subst here
      rw [lookUp_eq_none_of_above below₁, lookUp_eq_none_of_above below₂]
    · simpa [lookUp, here] using same key

/-- **Extensionality.** Two dictionaries with the same look-ups are the same dictionary. -/
theorem ext_get? {first second : Dict κ α} (same : ∀ key, first.get? key = second.get? key) :
    first = second := by
  have entriesMeet := entries_eq_of_lookUp_eq first.ascending second.ascending same
  cases first
  cases second
  cases entriesMeet
  rfl

theorem mapValues_mapValues {β γ : Type} (first : α → β) (second : β → γ) (dict : Dict κ α) :
    (dict.mapValues first).mapValues second = dict.mapValues fun value => second (first value) := by
  refine ext_get? fun key => ?_
  simp only [get?_mapValues, Option.map_map, Function.comp_def]

theorem mapValues_insert {β : Type} [DecidableLT κ] (change : α → β) (dict : Dict κ α) (key : κ)
    (value : α) :
    (dict.insert key value).mapValues change = (dict.mapValues change).insert key (change value) := by
  refine ext_get? fun other => ?_
  rw [get?_mapValues, get?_insert, get?_insert, get?_mapValues]
  split <;> rfl

theorem mapValues_erase {β : Type} (change : α → β) (dict : Dict κ α) (key : κ) :
    (dict.erase key).mapValues change = (dict.mapValues change).erase key := by
  refine ext_get? fun other => ?_
  rw [get?_mapValues, get?_erase, get?_erase, get?_mapValues]
  split <;> rfl

end Extensionality

end Dict

end TermSpace
