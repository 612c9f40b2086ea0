import Conform.Proofs.Binary64.Nearest
import Mathlib.Algebra.Order.Field.Rat
import Mathlib.Data.Rat.Cast.Order
import Mathlib.Order.Monotone.Basic
import Mathlib.Tactic.Ring

/-!
# The values of finite numbers

A finite number stands for a dyadic rational. Counted in units of the least positive number, values are
integers, and these grow with the place in the total order: two numbers of different values compare as
their values do. Of equal values are only the two zeros, so the total order refines the order of values.
-/

namespace Conform.Binary64

variable {x y : Binary64} {i : Int}

def value (x : Binary64) : ℚ :=
  let size : ℚ := x.significand * 2 ^ x.exponent
  if x.negative then -size else size

theorem exponent_ge (x : Binary64) : -1074 ≤ x.exponent := by
  unfold exponent
  have : 0 < hiddenBit := by decide
  split
  · omega
  · have := Nat.div_pos (show hiddenBit ≤ x.magnitude by omega) this
    omega

/-- A power of two in steps of a grid. -/
theorem zpow_mul_step {e : Int} {k : Nat} (h : -(k + 1022) ≤ e) :
    (2 : ℚ) ^ e * step k = (Nat.pow 2 (e + (k + 1022)).toNat : Nat) := by
  have cast (n : Nat) : ((Nat.pow 2 n : Nat) : ℚ) = (2 : ℚ) ^ (n : Int) := by
    rw [zpow_natCast]
    exact Nat.cast_pow 2 n
  rw [step, cast, cast, ← zpow_add₀ two_ne_zero, Int.toNat_of_nonneg (by omega)]
  push_cast
  rfl

/-- The value in units of the least positive number. -/
theorem value_mul_unitsInOne (x : Binary64) : x.value * unitsInOne = x.units := by
  have power : (2 : ℚ) ^ x.exponent * unitsInOne = (Nat.pow 2 (x.exponent + 1074).toNat : Nat) := by
    rw [← step_unitsInOne]
    exact zpow_mul_step (exponent_ge x)
  unfold value units
  split <;> push_cast [← power] <;> ring

theorem unitsInOne_cast_pos : (0 : ℚ) < unitsInOne :=
  Nat.cast_pos.2 unitsInOne_pos

/-- Values against whole numbers, in units. -/
theorem value_lt_iff : x.value < i ↔ x.units < i * unitsInOne := by
  rw [← mul_lt_mul_iff_left₀ unitsInOne_cast_pos, value_mul_unitsInOne]
  norm_cast

/-- A number is an integer iff its count of the least units is that multiple of the units in one:
equality on rationals is equality on integers. -/
theorem value_eq_iff : x.value = i ↔ x.units = i * unitsInOne := by
  rw [← mul_left_inj' unitsInOne_cast_pos.ne', value_mul_unitsInOne]
  norm_cast

/-! ## Values and the total order -/

/-- Sizes grow with the magnitude. -/
theorem unitsOfMagnitude_strictMono : StrictMono unitsOfMagnitude := by
  have pos : 0 < hiddenBit := by decide
  refine strictMono_nat_of_lt_succ fun m => ?_
  by_cases small : m < hiddenBit
  · by_cases last : m + 1 < hiddenBit
    · rw [unitsOfMagnitude, unitsOfMagnitude, if_pos small, if_pos last]
      omega
    · have next : unitsOfMagnitude (0 * hiddenBit + hiddenBit) = hiddenBit * Nat.pow 2 0 :=
        unitsOfMagnitude_field (Nat.le_refl _) (by omega) 0
      rw [show m + 1 = 0 * hiddenBit + hiddenBit by omega, next, unitsOfMagnitude, if_pos small]
      simpa using small
  · -- The significand grows by one; if it is the greatest, so does the exponent.
    obtain ⟨field, sig, least, most, rfl⟩ :
        ∃ field sig, hiddenBit ≤ sig ∧ sig < 2 * hiddenBit ∧ m = field * hiddenBit + sig := by
      have rest := Nat.div_add_mod' m hiddenBit
      have below := Nat.mod_lt m pos
      have field : 0 < m / hiddenBit := Nat.div_pos (by omega) pos
      refine ⟨m / hiddenBit - 1, m % hiddenBit + hiddenBit, by omega, by omega, ?_⟩
      rw [Nat.sub_mul, Nat.one_mul]
      have : hiddenBit ≤ m / hiddenBit * hiddenBit := Nat.le_mul_of_pos_left _ field
      omega
    rw [Nat.add_assoc, unitsOfMagnitude_field least (by omega),
      unitsOfMagnitude_field (by omega) (by omega)]
    exact Nat.mul_lt_mul_of_pos_right (Nat.lt_succ_self _) (Nat.two_pow_pos _)

/-- A smaller number comes first. -/
theorem rank_lt_of_units_lt (h : x.units < y.units) : x.rank < y.rank := by
  have mono (m n : Nat) : unitsOfMagnitude m < unitsOfMagnitude n ↔ m < n :=
    unitsOfMagnitude_strictMono.lt_iff_lt
  have left := mono x.magnitude y.magnitude
  have right := mono y.magnitude x.magnitude
  rw [units_eq, units_eq] at h
  revert h
  unfold rank
  cases x.negative <;> cases y.negative <;> simp <;> omega

/-- Numbers of one value are at one place, or are the two zeros. -/
theorem rank_eq_of_units_eq (h : x.units = y.units) :
    x.rank = y.rank ∨ x.magnitude = 0 ∧ y.magnitude = 0 := by
  have same (m n : Nat) : unitsOfMagnitude m = unitsOfMagnitude n ↔ m = n :=
    unitsOfMagnitude_strictMono.injective.eq_iff
  have zero : unitsOfMagnitude 0 = 0 := rfl
  have sizes := same x.magnitude y.magnitude
  have left := same x.magnitude 0
  have right := same y.magnitude 0
  rw [units_eq, units_eq] at h
  revert h
  unfold rank
  cases x.negative <;> cases y.negative <;> simp <;> omega

/-! ## Whole numbers -/

/-- The whole numbers up to two to the fifty-third are on the grid that they are rounded on. -/
theorem wholeSignificand_exact {n : Nat} (pos : n ≠ 0) (h : n ≤ Nat.pow 2 53) :
    wholeSignificand n (Nat.log2 n) * step (Nat.log2 n) = n * unitsInOne := by
  have limit : Nat.pow 2 53 = 9007199254740992 := rfl
  have least : Nat.pow 2 (Nat.log2 n) ≤ n := Nat.log2_self_le pos
  have most : Nat.log2 n < 54 := (Nat.log2_lt pos).2 (by omega)
  by_cases below : Nat.log2 n < 52
  · exact wholeSignificand_mul_step n below
  · obtain digits | digits : Nat.log2 n = 52 ∨ Nat.log2 n = 53 := by omega
    · have whole : divHalfEven n 1 = n := by simp [divHalfEven, Nat.mod_one]
      rw [digits, step_unitsInOne]
      exact congrArg (· * unitsInOne) whole
    · -- Only the limit itself has so many digits.
      rw [digits, limit] at least
      obtain rfl : n = 9007199254740992 := by omega
      have double : step 53 = 2 * unitsInOne := by rw [← step_unitsInOne, ← pow_mul_step 1 52]
      have half : wholeSignificand 9007199254740992 53 = 4503599627370496 := rfl
      rw [digits, double, half, ← Nat.mul_assoc]

/-- The whole numbers up to two to the fifty-third are not rounded. -/
theorem value_ofInt (h : i.natAbs ≤ Nat.pow 2 53) : (ofInt i).value = i := by
  rw [value_eq_iff]
  by_cases zero : i = 0
  · rw [zero, Int.zero_mul]
    rfl
  · have pos := Int.natAbs_ne_zero.2 zero
    have small : Nat.log2 i.natAbs < 1023 :=
      Nat.lt_trans ((Nat.log2_lt pos).2 (Nat.lt_of_le_of_lt h (by decide))) (show 54 < 1023 by decide)
    rw [units_eq, unitsOfMagnitude_ofInt zero small, wholeSignificand_exact pos h, negative_ofInt]
    by_cases neg : i < 0
    · rw [decide_eq_true neg, if_pos rfl, Int.natCast_mul, ← Int.neg_mul]
      congr 1
      omega
    · rw [decide_eq_false neg, if_neg Bool.false_ne_true, Int.natCast_mul]
      congr 1
      omega

/-- No finite number lies between a whole number and the nearest one. -/
theorem Nearest.units_le (h : x.Nearest i) (finite : y.isFinite = true)
    (below : y.units ≤ i * unitsInOne) : y.units ≤ x.units := by
  have near := h.near y finite
  unfold distance at near
  omega

/-- A number at or above an integer is at or above the integer's nearest one. With its mirror image
this makes comparing by `units` sound. -/
theorem Nearest.le_units (h : x.Nearest i) (finite : y.isFinite = true)
    (above : i * unitsInOne ≤ y.units) : x.units ≤ y.units := by
  have near := h.near y finite
  unfold distance at near
  omega

end Conform.Binary64
