import TermSpace.Proofs.List.FirstOccurrences
import TermSpace.Proofs.Ty.Annotations
import TermSpace.Proofs.Ty.Scoping

/-!
# Lexical scope of type variables

A name in a type expression refers to the quantifier of that name that is closest around it, and where there
is none, to what the name is free for.  Reading an expression knows nothing of this.  It goes through the
expression with one table of names, from the last part of a function type to the first, and at the end of a
quantifier it puts back what the table had for the name.  It comes to the same: from the ids that have been
given to referents so far the table can be told at every place (`Accounts`), and what is read from an
expression is the expression with the ids of its referents (`exists_draws`).  Since different referents have
different ids, the variables of a type are those of its expression in lexical scope (`ofTerm_scopes_names`).
-/

namespace TermSpace.Ty

set_option autoImplicit false

/-- What a name refers to: the quantifier of the name that is closest around it, if there is one.  Quantifiers
are counted from the left. -/
@[ext]
structure Referent where
  name : String
  quantifier? : Option Nat
deriving DecidableEq

namespace Expression

def quantifierCount : Expression → Nat
  | .named _ => 0
  | .base _ => 0
  | .arrow source target => source.quantifierCount + target.quantifierCount
  | .list element => element.quantifierCount
  | .maybe element => element.quantifierCount
  | .either left right => left.quantifierCount + right.quantifierCount
  | .vector _ => 0
  | .quantified _ body => body.quantifierCount + 1

/-- What the variables of an expression refer to, from left to right.  The quantifiers around the expression are
given by their names and numbers, the closest one first, and the first of its own has the number `count`. -/
def referents : Expression → List (String × Nat) → Nat → List Referent
  | .named name, enclosing, _ => [⟨name, enclosing.lookup name⟩]
  | .base _, _, _ => []
  | .arrow source target, enclosing, count =>
    source.referents enclosing count ++ target.referents enclosing (count + source.quantifierCount)
  | .list element, enclosing, count => element.referents enclosing count
  | .maybe element, enclosing, count => element.referents enclosing count
  | .either left right, enclosing, count =>
    left.referents enclosing count ++ right.referents enclosing (count + left.quantifierCount)
  | .vector _, _, _ => []
  | .quantified name body, enclosing, count => body.referents ((name, count) :: enclosing) (count + 1)

/-- The quantifiers of an expression from left to right. -/
def quantifiers : Expression → Nat → List Referent
  | .named _, _ => []
  | .base _, _ => []
  | .arrow source target, count =>
    source.quantifiers count ++ target.quantifiers (count + source.quantifierCount)
  | .list element, count => element.quantifiers count
  | .maybe element, count => element.quantifiers count
  | .either left right, count =>
    left.quantifiers count ++ right.quantifiers (count + left.quantifierCount)
  | .vector _, _ => []
  | .quantified name body, count => ⟨name, some count⟩ :: body.quantifiers (count + 1)

/-- All that an expression refers to or binds. -/
def mentions (expression : Expression) (enclosing : List (String × Nat)) (count : Nat) : List Referent :=
  expression.referents enclosing count ++ expression.quantifiers count

/-- The type that an expression is if every referent has a variable. -/
def resolved (idOf : Referent → Nat) : Expression → List (String × Nat) → Nat → Ty
  | .named name, enclosing, _ => .var (idOf ⟨name, enclosing.lookup name⟩)
  | .base name, _, _ => .base name
  | .arrow source target, enclosing, count =>
    .arrow (source.resolved idOf enclosing count)
      (target.resolved idOf enclosing (count + source.quantifierCount))
  | .list element, enclosing, count => .list (element.resolved idOf enclosing count)
  | .maybe element, enclosing, count => .maybe (element.resolved idOf enclosing count)
  | .either left right, enclosing, count =>
    .either (left.resolved idOf enclosing count)
      (right.resolved idOf enclosing (count + left.quantifierCount))
  | .vector length, _, _ => .vector length
  | .quantified name body, enclosing, count =>
    .quantified (idOf ⟨name, some count⟩) (body.resolved idOf ((name, count) :: enclosing) (count + 1))

/-- The different names of the free variables of an expression, in the order in which they occur first. -/
def freeNames (expression : Expression) : List String :=
  (((expression.referents [] 0).filter (·.quantifier?.isNone)).map (·.name)).eraseDups

end Expression

/-! ## Ids that are given to referents -/

/-- Different referents are given different ids from before a supply. -/
structure Given (supply : Nat) (given : Referent → Option Nat) : Prop where
  below : ∀ referent id, given referent = some id → id < supply
  distinct : ∀ first second id, given first = some id → given second = some id → first = second

section Update

variable {given : Referent → Option Nat} {referent other : Referent} {value id : Nat}

theorem eq_or_of_update (found : Function.update given referent (some value) other = some id) :
    (other = referent ∧ id = value) ∨ given other = some id := by
  by_cases same : other = referent
  · rw [same, Function.update_self] at found
    exact .inl ⟨same, (Option.some.inj found).symm⟩
  · rw [Function.update_of_ne same] at found
    exact .inr found

/-- What is given stays if an id goes to a referent that has none. -/
theorem keeps_update (new : given referent = none) (found : given other = some id) :
    Function.update given referent (some value) other = some id := by
  rwa [Function.update_of_ne]
  rintro rfl
  rw [new] at found
  cases found

/-- The next id goes to a referent. -/
theorem Given.draw {supply : Nat} (isGiven : Given supply given) (referent : Referent) :
    Given (supply + 1) (Function.update given referent (some supply)) := by
  constructor
  · intro other id found
    rcases eq_or_of_update found with ⟨-, rfl⟩ | before
    · exact Nat.lt_succ_self _
    · exact Nat.lt_succ_of_lt (isGiven.below other id before)
  · intro first second id atFirst atSecond
    rcases eq_or_of_update atFirst with ⟨rfl, rfl⟩ | firstBefore <;>
      rcases eq_or_of_update atSecond with ⟨same, _⟩ | secondBefore
    · exact same.symm
    · exact absurd (isGiven.below second _ secondBefore) (Nat.lt_irrefl _)
    · subst id
      exact absurd (isGiven.below first _ firstBefore) (Nat.lt_irrefl _)
    · exact isGiven.distinct first second id firstBefore secondBefore

end Update

/-- **The table of names at a place:** every name has the id of its referent there, if that has been given
one.  The quantifiers around the place have been given theirs. -/
structure Accounts (given : Referent → Option Nat) (enclosing : List (String × Nat)) (scope : Scope) :
    Prop where
  isGiven : Given scope.supply given
  names : ∀ name, scope.names.get? name = given ⟨name, enclosing.lookup name⟩
  around : ∀ name number, enclosing.lookup name = some number → ∃ id, given ⟨name, some number⟩ = some id

/-- What reading an expression draws: ids for all that it mentions and that had none, for no quantifiers on the
outside, and for no free name that is bound around the expression. -/
structure Draws (expression : Expression) (enclosing : List (String × Nat)) (count : Nat) (scope : Scope)
    (given after : Referent → Option Nat) : Prop where
  accounts : Accounts after enclosing (expression.read scope).2
  keeps : ∀ referent id, given referent = some id → after referent = some id
  outside : ∀ name number, number < count ∨ count + expression.quantifierCount ≤ number →
    after ⟨name, some number⟩ = given ⟨name, some number⟩
  hidden : ∀ name number, enclosing.lookup name = some number → after ⟨name, none⟩ = given ⟨name, none⟩
  covers : ∀ referent ∈ expression.mentions enclosing count, ∃ id, after referent = some id
  resolves : ∀ idOf : Referent → Nat, (∀ referent id, after referent = some id → idOf referent = id) →
    (expression.read scope).1 = expression.resolved idOf enclosing count

section Draws

variable {given middle after : Referent → Option Nat} {enclosing : List (String × Nat)} {scope : Scope}
  {count : Nat}

theorem Scope.get?_restore (outer : Scope) (name other : String) :
    (scope.restore outer name).names.get? other =
      if name = other then outer.names.get? other else scope.names.get? other := by
  unfold Scope.restore
  cases bound : outer.names.get? name with
  | some id =>
    rw [Dict.get?_insert]
    split
    · next same => rw [← same, bound]
    · rfl
  | none =>
    rw [Dict.get?_erase]
    split
    · next same => rw [← same, bound]
    · rfl

/-- A quantifier takes no other name than its own. -/
theorem lookup_cons_of_ne {name other : String} (apart : name ≠ other) :
    ((name, count) :: enclosing).lookup other = enclosing.lookup other := by
  rw [List.lookup_cons, beq_false_of_ne apart.symm]

namespace Accounts

theorem lookup_eq_none (accounts : Accounts given enclosing scope) {name : String}
    (found : scope.names.get? name = none) : enclosing.lookup name = none := by
  have names := accounts.names name
  cases bound : enclosing.lookup name with
  | none => rfl
  | some number =>
    obtain ⟨id, isGiven⟩ := accounts.around name number bound
    rw [← bound, ← names, found] at isGiven
    cases isGiven

/-- A name that stands for nothing yet is free, and what it is free for is given the next id. -/
theorem draw (accounts : Accounts given enclosing scope) {name : String}
    (found : scope.names.get? name = none) :
    Accounts (Function.update given ⟨name, none⟩ (some scope.supply)) enclosing (scope.bind name).2 := by
  have free := accounts.lookup_eq_none found
  refine ⟨accounts.isGiven.draw _, fun other => ?_, fun other number bound => ?_⟩
  · rw [Scope.bind, Dict.get?_insert]
    by_cases same : name = other
    · rw [if_pos same, ← same, free, Function.update_self]
    · have apart : (⟨other, enclosing.lookup other⟩ : Referent) ≠ ⟨name, none⟩ := by simp [Ne.symm same]
      rw [if_neg same, Function.update_of_ne apart, accounts.names]
  · have apart : (⟨other, some number⟩ : Referent) ≠ ⟨name, none⟩ := by simp
    rw [Function.update_of_ne apart]
    exact accounts.around other number bound

/-- Inside a quantifier its name refers to it. -/
theorem bind (accounts : Accounts given enclosing scope) (name : String) :
    Accounts (Function.update given ⟨name, some count⟩ (some scope.supply)) ((name, count) :: enclosing)
      (scope.bind name).2 := by
  refine ⟨accounts.isGiven.draw _, fun other => ?_, fun other number bound => ?_⟩
  · rw [Scope.bind, Dict.get?_insert]
    by_cases same : name = other
    · rw [if_pos same, ← same, List.lookup_cons_self, Function.update_self]
    · have apart : (⟨other, enclosing.lookup other⟩ : Referent) ≠ ⟨name, some count⟩ := by simp [Ne.symm same]
      rw [if_neg same, lookup_cons_of_ne same, Function.update_of_ne apart, accounts.names]
  · by_cases same : name = other
    · rw [← same, List.lookup_cons_self] at bound
      rw [← same, ← bound]
      exact ⟨_, Function.update_self _ _ _⟩
    · have apart : (⟨other, some number⟩ : Referent) ≠ ⟨name, some count⟩ := by simp [Ne.symm same]
      rw [lookup_cons_of_ne same] at bound
      rw [Function.update_of_ne apart]
      exact accounts.around other number bound

/-- After a quantifier its name refers to what it referred to before. -/
theorem restore {inner : Scope} {name : String} (atEnd : Accounts after ((name, count) :: enclosing) inner)
    (accounts : Accounts given enclosing scope)
    (keeps : ∀ referent id, given referent = some id → after referent = some id)
    (hidden : after ⟨name, none⟩ = given ⟨name, none⟩) :
    Accounts after enclosing (inner.restore scope name) := by
  refine ⟨?_, fun other => ?_, fun other number bound => ?_⟩
  · rw [Scope.restore_supply]
    exact atEnd.isGiven
  · rw [Scope.get?_restore]
    by_cases same : name = other
    · subst other
      rw [if_pos rfl, accounts.names]
      cases bound : enclosing.lookup name with
      | none => exact hidden.symm
      | some number =>
        obtain ⟨id, found⟩ := accounts.around name number bound
        rw [found, keeps _ _ found]
    · rw [if_neg same, atEnd.names, lookup_cons_of_ne same]
  · obtain ⟨id, found⟩ := accounts.around other number bound
    exact ⟨id, keeps _ _ found⟩

end Accounts

/-- What reads nothing draws nothing. -/
theorem draws_constant {expression : Expression} {ty : Ty} (accounts : Accounts given enclosing scope)
    (noReferents : expression.referents enclosing count = [])
    (noQuantifiers : expression.quantifiers count = []) (read : expression.read scope = (ty, scope))
    (resolved : ∀ idOf, expression.resolved idOf enclosing count = ty) :
    Draws expression enclosing count scope given given where
  accounts := by rwa [read]
  keeps := fun _ _ found => found
  outside := fun _ _ _ => rfl
  hidden := fun _ _ _ => rfl
  covers := by simp [Expression.mentions, noReferents, noQuantifiers]
  resolves := fun idOf _ => by rw [read, resolved]

theorem draws_named (accounts : Accounts given enclosing scope) (name : String) :
    ∃ after, Draws (.named name) enclosing count scope given after := by
  have names := accounts.names name
  cases found : scope.names.get? name with
  | some id =>
    have drawn : scope.variable name = (id, scope) := by simp only [Scope.variable, found]
    rw [found] at names
    refine ⟨given, ?_, fun _ _ before => before, fun _ _ _ => rfl, fun _ _ _ => rfl, ?_, ?_⟩
    · simpa only [Expression.read, drawn] using accounts
    · simp [Expression.mentions, Expression.referents, Expression.quantifiers, ← names]
    · intro idOf agrees
      simp only [Expression.read, drawn, Expression.resolved, agrees _ _ names.symm]
  | none =>
    have drawn : scope.variable name = scope.bind name := by simp only [Scope.variable, Scope.bind, found]
    have free := accounts.lookup_eq_none found
    rw [found, free] at names
    refine ⟨Function.update given ⟨name, none⟩ (some scope.supply), ?_, fun _ _ => keeps_update names.symm,
      fun other number _ => Function.update_of_ne (by simp) _ _, fun other number bound => ?_, ?_, ?_⟩
    · simpa only [Expression.read, drawn] using accounts.draw found
    · refine Function.update_of_ne ?_ _ _
      rintro ⟨rfl⟩
      rw [free] at bound
      cases bound
    · simp [Expression.mentions, Expression.referents, Expression.quantifiers, free]
    · intro idOf agrees
      simp only [Expression.read, drawn, Expression.resolved, free,
        agrees _ _ (Function.update_self _ _ _), Scope.bind]

/-- Two parts of an expression are read one after the other. -/
theorem Draws.both {one two whole : Expression} {countOne countTwo : Nat}
    (atOne : Draws one enclosing countOne scope given middle)
    (atTwo : Draws two enclosing countTwo (one.read scope).2 middle after)
    (left : (whole.read scope).2 = (two.read (one.read scope).2).2)
    (range : ∀ number, number < count ∨ count + whole.quantifierCount ≤ number →
      (number < countOne ∨ countOne + one.quantifierCount ≤ number) ∧
        (number < countTwo ∨ countTwo + two.quantifierCount ≤ number))
    (parts : ∀ referent ∈ whole.mentions enclosing count,
      referent ∈ one.mentions enclosing countOne ∨ referent ∈ two.mentions enclosing countTwo)
    (resolves : ∀ idOf, (one.read scope).1 = one.resolved idOf enclosing countOne →
      (two.read (one.read scope).2).1 = two.resolved idOf enclosing countTwo →
      (whole.read scope).1 = whole.resolved idOf enclosing count) :
    Draws whole enclosing count scope given after where
  accounts := left ▸ atTwo.accounts
  keeps := fun referent id found => atTwo.keeps referent id (atOne.keeps referent id found)
  outside := fun name number away => by
    rw [atTwo.outside name number (range number away).2, atOne.outside name number (range number away).1]
  hidden := fun name number bound => by
    rw [atTwo.hidden name number bound, atOne.hidden name number bound]
  covers := fun referent member => by
    rcases parts referent member with inOne | inTwo
    · obtain ⟨id, found⟩ := atOne.covers referent inOne
      exact ⟨id, atTwo.keeps referent id found⟩
    · exact atTwo.covers referent inTwo
  resolves := fun idOf agrees =>
    have earlier := fun referent id found => agrees referent id (atTwo.keeps referent id found)
    resolves idOf (atOne.resolves idOf earlier) (atTwo.resolves idOf agrees)

theorem Draws.quantified {name : String} {body : Expression} (accounts : Accounts given enclosing scope)
    (new : given ⟨name, some count⟩ = none)
    (inside : Draws body ((name, count) :: enclosing) (count + 1) (scope.bind name).2
      (Function.update given ⟨name, some count⟩ (some scope.supply)) after) :
    Draws (.quantified name body) enclosing count scope given after := by
  have keeps : ∀ referent id, given referent = some id → after referent = some id :=
    fun referent id found => inside.keeps referent id (keeps_update new found)
  have drawn : after ⟨name, some count⟩ = some scope.supply := inside.keeps _ _ (Function.update_self _ _ _)
  constructor
  case accounts =>
    refine inside.accounts.restore accounts keeps ?_
    rw [inside.hidden name count List.lookup_cons_self, Function.update_of_ne (by simp)]
  case keeps => exact keeps
  case outside =>
    intro other number away
    simp only [Expression.quantifierCount] at away
    have apart : (⟨other, some number⟩ : Referent) ≠ ⟨name, some count⟩ := by
      rintro ⟨rfl⟩
      omega
    rw [inside.outside other number (by omega), Function.update_of_ne apart]
  case hidden =>
    intro other number bound
    by_cases same : name = other
    · subst other
      rw [inside.hidden name count List.lookup_cons_self, Function.update_of_ne (by simp)]
    · rw [inside.hidden other number, Function.update_of_ne (by simp)]
      rwa [lookup_cons_of_ne same]
  case covers =>
    intro referent member
    simp only [Expression.mentions, Expression.referents, Expression.quantifiers, List.mem_append,
      List.mem_cons] at member
    rcases member with inBody | rfl | inBody
    · exact inside.covers referent (List.mem_append_left _ inBody)
    · exact ⟨_, drawn⟩
    · exact inside.covers referent (List.mem_append_right _ inBody)
  case resolves =>
    intro idOf agrees
    simp only [Expression.read, Expression.resolved, agrees _ _ drawn, inside.resolves idOf agrees]
    rfl

/-- **Reading draws what lexical scope calls for.** The numbers of the quantifiers have to be new. -/
theorem exists_draws (expression : Expression) (count : Nat) (accounts : Accounts given enclosing scope)
    (new : ∀ name number, count ≤ number → number < count + expression.quantifierCount →
      given ⟨name, some number⟩ = none) :
    ∃ after, Draws expression enclosing count scope given after := by
  induction expression generalizing enclosing count scope given with
  | named name => exact draws_named accounts name
  | base name | vector length => exact ⟨given, draws_constant accounts rfl rfl rfl fun _ => rfl⟩
  | list element ih | maybe element ih =>
    obtain ⟨after, draws⟩ := ih count accounts new
    refine ⟨after, draws.accounts, draws.keeps, draws.outside, draws.hidden, draws.covers, ?_⟩
    intro idOf agrees
    simp only [Expression.read, Expression.resolved, draws.resolves idOf agrees]
  | arrow source target sourceIH targetIH =>
    simp only [Expression.quantifierCount] at new
    obtain ⟨middle, atTarget⟩ := targetIH (count + source.quantifierCount) accounts
      fun name number _ _ => new name number (by omega) (by omega)
    obtain ⟨after, atSource⟩ := sourceIH count atTarget.accounts fun name number _ _ => by
      rw [atTarget.outside name number (by omega)]
      exact new name number (by omega) (by omega)
    refine ⟨after, atTarget.both atSource rfl ?_ ?_ ?_⟩
    · intro number away
      simp only [Expression.quantifierCount] at away
      omega
    · intro referent member
      simp only [Expression.mentions, Expression.referents, Expression.quantifiers,
        List.mem_append] at member ⊢
      tauto
    · intro idOf readTarget readSource
      simp only [Expression.read, Expression.resolved, readTarget, readSource]
  | either left right leftIH rightIH =>
    simp only [Expression.quantifierCount] at new
    obtain ⟨middle, atLeft⟩ := leftIH count accounts
      fun name number _ _ => new name number (by omega) (by omega)
    obtain ⟨after, atRight⟩ := rightIH (count + left.quantifierCount) atLeft.accounts
      fun name number _ _ => by
        rw [atLeft.outside name number (by omega)]
        exact new name number (by omega) (by omega)
    refine ⟨after, atLeft.both atRight rfl ?_ ?_ ?_⟩
    · intro number away
      simp only [Expression.quantifierCount] at away
      omega
    · intro referent member
      simp only [Expression.mentions, Expression.referents, Expression.quantifiers,
        List.mem_append] at member ⊢
      tauto
    · intro idOf readLeft readRight
      simp only [Expression.read, Expression.resolved, readLeft, readRight]
  | quantified name body ih =>
    simp only [Expression.quantifierCount] at new
    have newHere := new name count (Nat.le_refl _) (by omega)
    obtain ⟨after, inside⟩ := ih (count + 1) (accounts.bind name) fun other number _ _ => by
      have apart : (⟨other, some number⟩ : Referent) ≠ ⟨name, some count⟩ := by
        rintro ⟨rfl⟩
        omega
      rw [Function.update_of_ne apart]
      exact new other number (by omega) (by omega)
    exact ⟨after, .quantified accounts newHere inside⟩

end Draws

/-! ## The variables of what is read -/

theorem binders_resolved (idOf : Referent → Nat) (expression : Expression) (enclosing : List (String × Nat))
    (count : Nat) :
    (expression.resolved idOf enclosing count).binders = (expression.quantifiers count).map idOf := by
  induction expression generalizing enclosing count with
  | named name | base name | vector length => rfl
  | list element ih | maybe element ih => exact ih enclosing count
  | arrow first second firstIH secondIH | either first second firstIH secondIH =>
    simp only [Expression.resolved, binders, firstIH, secondIH, Expression.quantifiers, List.map_append]
  | quantified name body ih =>
    simp only [Expression.resolved, binders, ih, Expression.quantifiers, List.map_cons]

/-- Quantifiers are numbered from the left. -/
theorem numbers_quantifiers (expression : Expression) (count : Nat) :
    (expression.quantifiers count).map (·.quantifier?) =
      (List.range' count expression.quantifierCount).map some := by
  induction expression generalizing count with
  | named name | base name | vector length => rfl
  | list element ih | maybe element ih => exact ih count
  | arrow first second firstIH secondIH | either first second firstIH secondIH =>
    simp only [Expression.quantifiers, Expression.quantifierCount, List.map_append, firstIH, secondIH,
      ← List.range'_append_1]
  | quantified name body ih =>
    simp only [Expression.quantifiers, Expression.quantifierCount, List.map_cons, ih, List.range'_succ]

theorem nodup_quantifiers (expression : Expression) (count : Nat) : (expression.quantifiers count).Nodup := by
  refine List.Nodup.of_map (·.quantifier?) ?_
  rw [numbers_quantifiers]
  exact List.Nodup.map (Option.some_injective _) List.nodup_range'

theorem exists_number_of_mem_quantifiers {expression : Expression} {count : Nat} {referent : Referent}
    (member : referent ∈ expression.quantifiers count) : ∃ number, referent.quantifier? = some number := by
  have mapped : referent.quantifier? ∈ (expression.quantifiers count).map (·.quantifier?) :=
    List.mem_map_of_mem member
  rw [numbers_quantifiers] at mapped
  obtain ⟨number, -, same⟩ := List.mem_map.1 mapped
  exact ⟨number, same.symm⟩

/-- The free occurrences are those of names that no quantifier encloses, if their ids are not those of any
quantifier. -/
theorem freeOccurrences_resolved {idOf : Referent → Nat} {bound : List Nat} (expression : Expression)
    {enclosing : List (String × Nat)} {count : Nat}
    (around : ∀ name number, enclosing.lookup name = some number → idOf ⟨name, some number⟩ ∈ bound)
    (outside : ∀ referent ∈ expression.referents enclosing count, referent.quantifier? = none →
      idOf referent ∉ bound)
    (apart : ∀ referent ∈ expression.referents enclosing count, referent.quantifier? = none →
      ∀ quantifier ∈ expression.quantifiers count, idOf referent ≠ idOf quantifier) :
    (expression.resolved idOf enclosing count).freeOccurrences bound =
      ((expression.referents enclosing count).filter (·.quantifier?.isNone)).map idOf := by
  induction expression generalizing enclosing count bound with
  | named name =>
    simp only [Expression.resolved, freeOccurrences, Expression.referents]
    cases found : enclosing.lookup name with
    | some number => simp [around name number found]
    | none => simp [outside ⟨name, none⟩ (by simp [Expression.referents, found]) rfl]
  | base name | vector length => rfl
  | list element ih | maybe element ih => exact ih around outside apart
  | arrow first second firstIH secondIH | either first second firstIH secondIH =>
    have atFirst := firstIH around (fun referent member => outside referent (List.mem_append_left _ member))
      fun referent member free quantifier inside =>
        apart referent (List.mem_append_left _ member) free quantifier (List.mem_append_left _ inside)
    have atSecond := secondIH around (fun referent member => outside referent (List.mem_append_right _ member))
      fun referent member free quantifier inside =>
        apart referent (List.mem_append_right _ member) free quantifier (List.mem_append_right _ inside)
    simp only [Expression.resolved, freeOccurrences, Expression.referents, atFirst, atSecond,
      List.filter_append, List.map_append]
  | quantified name body ih =>
    refine ih (fun other number found => ?_) (fun referent member free => ?_)
      fun referent member free quantifier inside =>
        apart referent member free quantifier (List.mem_cons_of_mem _ inside)
    · by_cases same : name = other
      · subst other
        obtain rfl : count = number := by simpa only [List.lookup_cons_self, Option.some.injEq] using found
        exact List.mem_cons_self
      · rw [lookup_cons_of_ne same] at found
        exact List.mem_cons_of_mem _ (around other number found)
    · rw [List.mem_cons, not_or]
      exact ⟨apart referent member free _ List.mem_cons_self, outside referent member free⟩

/-- At the beginning no id is given. -/
theorem accounts_empty (supply : Nat) : Accounts (fun _ => none) [] ⟨∅, supply⟩ where
  isGiven := ⟨fun _ _ found => (nomatch found), fun _ _ _ found _ => (nomatch found)⟩
  names := fun name => Dict.get?_empty name
  around := fun _ _ bound => nomatch bound

/-- A whole expression is read with different ids for all that it mentions. -/
theorem exists_idOf (expression : Expression) (supply : Nat) :
    ∃ idOf : Referent → Nat, (expression.read ⟨∅, supply⟩).1 = expression.resolved idOf [] 0 ∧
      Set.InjOn idOf {referent | referent ∈ expression.mentions [] 0} := by
  obtain ⟨after, draws⟩ := exists_draws expression 0 (accounts_empty supply) fun _ _ _ _ => rfl
  have agrees : ∀ referent id, after referent = some id → (after referent).getD 0 = id :=
    fun referent id found => by rw [found, Option.getD_some]
  refine ⟨fun referent => (after referent).getD 0, draws.resolves _ agrees, ?_⟩
  intro first firstMember second secondMember same
  obtain ⟨firstId, atFirst⟩ := draws.covers first firstMember
  obtain ⟨secondId, atSecond⟩ := draws.covers second secondMember
  simp only [atFirst, atSecond, Option.getD_some] at same
  exact draws.accounts.isGiven.distinct first second firstId atFirst (same ▸ atSecond)

theorem Expression.mem_freeNames {expression : Expression} {name : String} :
    name ∈ expression.freeNames ↔ ⟨name, none⟩ ∈ expression.referents [] 0 := by
  simp only [Expression.freeNames, List.mem_eraseDups, List.mem_map, List.mem_filter,
    Option.isNone_iff_eq_none]
  constructor
  · rintro ⟨⟨_, _⟩, ⟨member, rfl⟩, rfl⟩
    exact member
  · intro member
    exact ⟨_, ⟨member, rfl⟩, rfl⟩

section Apart

variable {idOf : Referent → Nat} {expression : Expression}
  (apart : Set.InjOn idOf {referent | referent ∈ expression.mentions [] 0})

include apart

theorem ne_of_free {referent quantifier : Referent} (member : referent ∈ expression.referents [] 0)
    (free : referent.quantifier? = none) (inside : quantifier ∈ expression.quantifiers 0) :
    idOf referent ≠ idOf quantifier := by
  intro same
  obtain ⟨number, numbered⟩ := exists_number_of_mem_quantifiers inside
  rw [← apart (List.mem_append_left _ member) (List.mem_append_right _ inside) same, free] at numbered
  cases numbered

theorem freeVars_resolved :
    (expression.resolved idOf [] 0).freeVars = expression.freeNames.map fun name => idOf ⟨name, none⟩ := by
  have around : ∀ name number, ([] : List (String × Nat)).lookup name = some number →
      idOf ⟨name, some number⟩ ∈ ([] : List Nat) := fun _ _ found => nomatch found
  have named : ((expression.referents [] 0).filter (·.quantifier?.isNone)).map idOf =
      (((expression.referents [] 0).filter (·.quantifier?.isNone)).map (·.name)).map
        fun name => idOf ⟨name, none⟩ := by
    rw [List.map_map]
    refine List.map_congr_left fun referent member => congrArg idOf (Referent.ext rfl ?_)
    simpa using (List.mem_filter.1 member).2
  rw [freeVars, freeOccurrences_resolved expression around (fun _ _ _ => List.not_mem_nil)
    (fun _ member free _ inside => ne_of_free apart member free inside), named, Expression.freeNames,
    eraseDups_map]
  intro first firstMember second secondMember same
  have firstFree := Expression.mem_freeNames.1 (List.mem_eraseDups.2 firstMember)
  have secondFree := Expression.mem_freeNames.1 (List.mem_eraseDups.2 secondMember)
  have equal := apart (List.mem_append_left _ firstFree) (List.mem_append_left _ secondFree) same
  exact congrArg Referent.name equal

end Apart

/-- **The variables of a type are scoped lexically.** Every term that is read writes an expression, and the type
is the expression with an id for every referent.  Two variables of the expression get the same id if and only
if they have the same name and the same closest quantifier of that name around them, or both none.  Every
quantifier gets an id of its own, which is neither that of another quantifier nor that of a free variable, and
the free variables of the type are, in their order, the ids of the different free names. -/
theorem ofTerm_scopes_names {term : Term} {supply left : Nat} {ty : Ty}
    (reads : ofTerm term supply = .ok (ty, left)) :
    (∃ expression, Writes Headed term expression) ∧
    ∀ expression, Writes Headed term expression → ∃ idOf : Referent → Nat,
      ty = expression.resolved idOf [] 0 ∧
      (∀ first ∈ expression.referents [] 0, ∀ second ∈ expression.referents [] 0,
        idOf first = idOf second ↔ first.name = second.name ∧ first.quantifier? = second.quantifier?) ∧
      (ty.binders = (expression.quantifiers 0).map idOf ∧ ty.binders.Nodup ∧
        ∀ id ∈ ty.binders, id ∉ ty.freeVars) ∧
      ty.freeVars = expression.freeNames.map (fun name => idOf ⟨name, none⟩) ∧ ty.freeVars.Nodup := by
  refine ⟨exists_ofTerm_iff.1 ⟨ty, left, reads⟩, fun expression writes => ?_⟩
  obtain ⟨idOf, resolved, apart⟩ := exists_idOf expression supply
  have same : (expression.read ⟨∅, supply⟩).1 = ty := by
    obtain ⟨result, readsTerm, read⟩ := bind_eq_ok.1 reads
    rw [writes.readExpression, Except.ok.injEq] at readsTerm
    subst readsTerm
    cases read
    rfl
  obtain rfl := same.symm.trans resolved
  refine ⟨idOf, rfl, fun first firstMember second secondMember => ?_, ⟨binders_resolved .., ?_, ?_⟩,
    freeVars_resolved apart, nodup_freeVars _⟩
  · constructor
    · intro equal
      have same := apart (List.mem_append_left _ firstMember) (List.mem_append_left _ secondMember) equal
      exact ⟨congrArg _ same, congrArg _ same⟩
    · rintro ⟨names, quantifiers⟩
      exact congrArg idOf (Referent.ext names quantifiers)
  · rw [binders_resolved]
    exact List.Nodup.map_on (fun first firstMember second secondMember =>
      apart (List.mem_append_right _ firstMember) (List.mem_append_right _ secondMember))
      (nodup_quantifiers expression 0)
  · intro id bound free
    rw [binders_resolved] at bound
    rw [freeVars_resolved apart] at free
    obtain ⟨quantifier, inside, rfl⟩ := List.mem_map.1 bound
    obtain ⟨name, member, same⟩ := List.mem_map.1 free
    exact ne_of_free apart (Expression.mem_freeNames.1 member) rfl inside same

/-- `$a` is free on both sides of a quantifier of `$a`, and `$b` is free inside of it. -/
theorem ofTerm_scopes_names_around_quantifier :
    let quantified := Term.apply (.atom "forall") [.atom "$a", .compound "->" [.atom "$a", .atom "$b"]]
    let term := Term.compound "->" [.atom "$a", quantified, .atom "$b", .atom "$a"]
    let ty := arrow (.var 0) (.arrow (.quantified 2 (.arrow (.var 2) (.var 1))) (.arrow (.var 1) (.var 0)))
    ofTerm term 0 = .ok (ty, 3) ∧ ty.freeVars = [0, 1] ∧
      ∃ expression idOf, Writes Headed term expression ∧ ty = expression.resolved idOf [] 0 := by
  intro quantified term ty
  have reads : ofTerm term 0 = .ok (ty, 3) := rfl
  obtain ⟨⟨expression, writes⟩, inScope⟩ := ofTerm_scopes_names reads
  obtain ⟨idOf, resolved, -⟩ := inScope expression writes
  exact ⟨reads, rfl, expression, idOf, writes, resolved⟩

end TermSpace.Ty
