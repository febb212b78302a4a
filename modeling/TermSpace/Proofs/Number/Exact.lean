import Mathlib.Algebra.Order.Field.Power
import Mathlib.Algebra.Order.Field.Rat
import Mathlib.Tactic.Linarith
import Mathlib.Tactic.Positivity
import TermSpace.Number.Binary

/-!
# The rational numbers that doubles are

A finite double is a rational number.  Asking it for a natural number gives the one that it is, so that it
answers for whole numbers that are not negative and for no others; a zero with a minus sign is zero
(`value?_eq_natCast_iff`).

The comparison of doubles with zero is that of these numbers (`beq_zero_iff`).
-/

namespace TermSpace.Number

set_option autoImplicit false

/-- The rational number that a finite double is, without its sign. -/
def Binary.value (number : Binary) : ℚ := number.significand * 2 ^ number.exponent

/-- The rational number that a double is. -/
def Reading.value? : Reading → Option ℚ
  | .finite negative magnitude => some (if negative then -magnitude.value else magnitude.value)
  | .infinite _ => none
  | .notANumber => none

theorem Binary.value_nonneg (number : Binary) : 0 ≤ number.value :=
  mul_nonneg (Nat.cast_nonneg _) (zpow_nonneg (by norm_num) _)

/-- **The whole number of a double** is the rational number that it is. -/
theorem Binary.whole?_eq_some_iff {number : Binary} {whole : Nat} :
    number.whole? = some whole ↔ number.value = whole := by
  obtain ⟨significand, exponent, closeBelow⟩ := number
  by_cases upward : 0 ≤ exponent
  · obtain ⟨power, rfl⟩ := Int.eq_ofNat_of_zero_le upward
    simp only [whole?, value, if_pos upward, Option.some.injEq, Int.toNat_natCast, zpow_natCast,
      Nat.pow_eq]
    exact_mod_cast Iff.rfl
  · obtain ⟨power, rfl⟩ : ∃ power : Nat, exponent = -power := ⟨(-exponent).toNat, by omega⟩
    have positive : (0 : ℚ) < 2 ^ power := by positivity
    have scaled : value ⟨significand, -power, closeBelow⟩ = whole ↔ significand = whole * 2 ^ power := by
      rw [value, zpow_neg, zpow_natCast, mul_inv_eq_iff_eq_mul₀ positive.ne']
      exact_mod_cast Iff.rfl
    simp only [whole?, if_neg upward, neg_neg, Int.toNat_natCast, Nat.pow_eq,
      Option.ite_none_right_eq_some, Option.some.injEq, scaled]
    constructor
    · rintro ⟨divides, rfl⟩
      exact (Nat.div_mul_cancel (Nat.dvd_of_mod_eq_zero divides)).symm
    · rintro rfl
      exact ⟨Nat.mul_mod_left _ _, Nat.mul_div_cancel _ (by positivity)⟩

/-- **The natural number that a double is,** if it is one. -/
theorem value?_eq_natCast_iff {negative : Bool} {magnitude : Binary} {whole : Nat} :
    (Reading.finite negative magnitude).value? = some (whole : ℚ) ↔
      magnitude.whole? = some whole ∧ (negative = true → whole = 0) := by
  rw [Binary.whole?_eq_some_iff]
  cases negative with
  | false => simp [Reading.value?]
  | true =>
    have nonneg := magnitude.value_nonneg
    have natural : (0 : ℚ) ≤ whole := Nat.cast_nonneg _
    simp only [Reading.value?, if_true, Option.some.injEq, forall_const]
    constructor
    · intro same
      have zero : (whole : ℚ) = 0 := by linarith
      exact ⟨by linarith, by exact_mod_cast zero⟩
    · rintro ⟨same, rfl⟩
      rw [same]
      norm_num

/-! ## Zero -/

theorem Binary.value_eq_zero_iff {number : Binary} : number.value = 0 ↔ number.significand = 0 := by
  have positive : (2 : ℚ) ^ number.exponent ≠ 0 := zpow_ne_zero _ (by norm_num)
  simp [value, positive]

theorem value?_finite_eq_zero_iff {negative : Bool} {magnitude : Binary} :
    (Reading.finite negative magnitude).value? = some 0 ↔ magnitude.significand = 0 := by
  rw [← Binary.value_eq_zero_iff]
  cases negative <;> simp [Reading.value?]

/-- A double is zero if there is nothing in its bits but the sign. -/
theorem value?_read_eq_zero_iff {value : Float} :
    (read value).value? = some 0 ↔
      value.toBits.toNat / Nat.pow 2 52 % Nat.pow 2 11 = 0 ∧ value.toBits.toNat % Nat.pow 2 52 = 0 := by
  unfold read
  dsimp only
  split
  · next all => split <;> simp [Reading.value?, all]
  split
  · next below => simp [value?_finite_eq_zero_iff, below]
  · next biased => simp [value?_finite_eq_zero_iff, biased]

section Comparison

open Float.Model

/-- What compares as equal to a zero is a zero, of whatever sign. -/
theorem compare_zero_iff {number : UnpackedFloat} {sign : UnpackedFloat.Sign} :
    number.compare (.zero sign) = some .eq ↔ ∃ other, number = .zero other := by
  cases number with
  | infinity own =>
    refine iff_of_false ?_ (by rintro ⟨_, ⟨⟩⟩)
    cases own <;> rintro ⟨⟩
  | notANumber => exact iff_of_false (by rintro ⟨⟩) (by rintro ⟨_, ⟨⟩⟩)
  | zero own => exact iff_of_true rfl ⟨own, rfl⟩
  | finite own mantissa exponent positive =>
    refine iff_of_false ?_ (by rintro ⟨_, ⟨⟩⟩)
    cases own <;> rintro ⟨⟩

theorem unpack_eq_zero_iff {bits : BitVec 64} :
    (∃ sign, UnpackedFloat.unpack Format.binary64 bits = .zero sign) ↔
      bits.toNat / Nat.pow 2 52 % Nat.pow 2 11 = 0 ∧ bits.toNat % Nat.pow 2 52 = 0 := by
  have exponent : (@UnpackedFloat.unpackExponent Format.binary64 bits).toNat =
      bits.toNat / Nat.pow 2 52 % Nat.pow 2 11 := by
    simp [UnpackedFloat.unpackExponent, Nat.shiftRight_eq_div_pow]
  have mantissa : (@UnpackedFloat.unpackMantissa Format.binary64 bits).toNat =
      bits.toNat % Nat.pow 2 52 := by
    simp [UnpackedFloat.unpackMantissa]
  have empty {width : Nat} (word : BitVec width) : word.toNat = 0 ↔ word = 0 := by simp [BitVec.toNat_eq]
  rw [← exponent, ← mantissa, empty, empty]
  unfold UnpackedFloat.unpack
  dsimp only
  by_cases all : @UnpackedFloat.unpackExponent Format.binary64 bits = -BitVec.ofNat _ 1
  · rw [if_pos all]
    split <;> simp [all]
  rw [if_neg all]
  by_cases below : @UnpackedFloat.unpackExponent Format.binary64 bits = BitVec.ofNat _ 0
  · rw [if_pos below]
    by_cases nothing : @UnpackedFloat.unpackMantissa Format.binary64 bits = BitVec.ofNat _ 0
    · rw [dif_pos nothing]
      exact iff_of_true ⟨_, rfl⟩ ⟨below, nothing⟩
    · rw [dif_neg nothing]
      exact iff_of_false (by rintro ⟨_, ⟨⟩⟩) fun zero => nothing zero.2
  · rw [if_neg below]
    exact iff_of_false (by rintro ⟨_, ⟨⟩⟩) fun zero => below zero.1

/-- **The comparison with zero** asks whether a double is the number zero. -/
theorem beq_zero_iff {value : Float} : value == 0 ↔ (read value).value? = some 0 := by
  have zero : (0 : Float).toModel.unpack = .zero .positive := rfl
  have compares : (value == 0) = (value.toModel.unpack.compare (0 : Float).toModel.unpack == some .eq) := rfl
  rw [compares, zero, beq_iff_eq, compare_zero_iff, value?_read_eq_zero_iff]
  exact unpack_eq_zero_iff

end Comparison

end TermSpace.Number
