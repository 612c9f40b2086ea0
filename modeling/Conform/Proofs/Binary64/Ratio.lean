import Conform.Binary64.Shortest
import Mathlib.Algebra.Order.Field.Power
import Mathlib.Algebra.Order.Field.Rat
import Mathlib.Data.Rat.Cast.Order
import Mathlib.Tactic.Linarith
import Mathlib.Tactic.Ring

/-!
# Ratios as rational numbers

Rounding and printing work on ratios of natural numbers. Here these are rational numbers, placed between
two powers of two, and powers of two are placed between powers of ten.
-/

namespace Conform.Binary64

variable {num den : Nat}

/-! ## Ratios -/

/-- The rational number that a ratio stands for. -/
def ratio (r : Nat × Nat) : ℚ :=
  r.1 / r.2

theorem scaled_snd_pos (n : Nat) (q : Int) : 0 < (scaled n q).2 := by
  unfold scaled
  split
  · exact Nat.one_pos
  · exact Nat.two_pow_pos _

/-- A pair of `scaled` is the number times the power of two, whichever side the power went to. -/
theorem ratio_scaled (n : Nat) (q : Int) : ratio (scaled n q) = n * 2 ^ q := by
  unfold scaled
  split
  · rename_i nonneg
    lift q to Nat using nonneg
    simp [ratio]
  · rename_i negative
    obtain ⟨k, rfl⟩ : ∃ k : Nat, q = -k := ⟨(-q).toNat, by omega⟩
    simp [ratio, div_eq_mul_inv]

theorem tenfold_snd_pos (n : Nat) (e : Int) : 0 < (tenfold n e).2 := by
  unfold tenfold
  split
  · exact Nat.one_pos
  · exact Nat.pow_pos (by decide)

theorem tenfold_fst_pos {n : Nat} (h : 0 < n) (e : Int) : 0 < (tenfold n e).1 := by
  unfold tenfold
  split
  · exact Nat.mul_pos h (Nat.pow_pos (by decide))
  · exact h

/-- A pair of `tenfold` is the number times the power of ten. -/
theorem ratio_tenfold (n : Nat) (e : Int) : ratio (tenfold n e) = n * 10 ^ e := by
  unfold tenfold
  split
  · rename_i nonneg
    lift e to Nat using nonneg
    simp [ratio]
  · rename_i negative
    obtain ⟨k, rfl⟩ : ∃ k : Nat, e = -k := ⟨(-e).toNat, by omega⟩
    simp [ratio, div_eq_mul_inv]

/-- Ratios compare by cross multiplication. -/
theorem ratio_le_ratio_iff {a b : Nat × Nat} (ha : 0 < a.2) (hb : 0 < b.2) :
    ratio a ≤ ratio b ↔ a.1 * b.2 ≤ b.1 * a.2 := by
  unfold ratio
  rw [div_le_div_iff₀ (Nat.cast_pos.2 ha) (Nat.cast_pos.2 hb)]
  exact_mod_cast Iff.rfl

/-- Pairs are compared crosswise, as `covers` compares them, and that is the order of their ratios. -/
theorem ratio_lt_ratio_iff {a b : Nat × Nat} (ha : 0 < a.2) (hb : 0 < b.2) :
    ratio a < ratio b ↔ a.1 * b.2 < b.1 * a.2 := by
  rw [← not_le, ratio_le_ratio_iff hb ha, not_le]

/-! ## Binary exponents -/

theorem log2_bounds {n : Nat} (h : 0 < n) :
    (2 : ℚ) ^ (Nat.log2 n : Int) ≤ n ∧ (n : ℚ) < 2 ^ ((Nat.log2 n : Int) + 1) := by
  have least : 2 ^ Nat.log2 n ≤ n := Nat.log2_self_le h.ne'
  have most : n < 2 ^ (Nat.log2 n + 1) := Nat.lt_log2_self
  rw [zpow_natCast, ← Nat.cast_succ, zpow_natCast]
  exact ⟨by exact_mod_cast least, by exact_mod_cast most⟩

/-- The difference of the two logarithms, both of them rounded down, is right or too great by one. -/
theorem guess_bounds (hn : 0 < num) (hd : 0 < den) :
    (2 : ℚ) ^ ((Nat.log2 num : Int) - Nat.log2 den - 1) ≤ ratio (num, den) ∧
      ratio (num, den) < 2 ^ ((Nat.log2 num : Int) - Nat.log2 den + 1) := by
  obtain ⟨numLeast, numMost⟩ := log2_bounds hn
  obtain ⟨denLeast, denMost⟩ := log2_bounds hd
  have positive : (0 : ℚ) < den := Nat.cast_pos.2 hd
  generalize (Nat.log2 num : Int) = a at numLeast numMost ⊢
  generalize (Nat.log2 den : Int) = b at denLeast denMost ⊢
  unfold ratio
  rw [le_div_iff₀ positive, div_lt_iff₀ positive]
  constructor
  · calc (2 : ℚ) ^ (a - b - 1) * den
      _ ≤ 2 ^ (a - b - 1) * 2 ^ (b + 1) := by gcongr
      _ = 2 ^ a := by rw [← zpow_add₀ two_ne_zero]; congr 1; ring
      _ ≤ num := numLeast
  · calc (num : ℚ)
      _ < 2 ^ (a + 1) := numMost
      _ = 2 ^ (a - b + 1) * 2 ^ b := by rw [← zpow_add₀ two_ne_zero]; congr 1; ring
      _ ≤ 2 ^ (a - b + 1) * den := by gcongr

/-- The exponent of the greatest power of two that a positive ratio reaches. -/
theorem floorLog2_bounds (hn : 0 < num) (hd : 0 < den) :
    2 ^ floorLog2 num den ≤ ratio (num, den) ∧ ratio (num, den) < 2 ^ (floorLog2 num den + 1) := by
  obtain ⟨least, most⟩ := guess_bounds hn hd
  unfold floorLog2
  dsimp only
  generalize (Nat.log2 num : Int) - Nat.log2 den = guess at least most ⊢
  have below : num * (scaled den guess).2 < (scaled den guess).1 ↔ ratio (num, den) < 2 ^ guess := by
    have positive : (0 : ℚ) < den := Nat.cast_pos.2 hd
    calc num * (scaled den guess).2 < (scaled den guess).1
      _ ↔ ratio (num, 1) < ratio (scaled den guess) := by
        rw [ratio_lt_ratio_iff Nat.one_pos (scaled_snd_pos den guess), Nat.mul_one]
      _ ↔ ratio (num, den) < 2 ^ guess := by
        rw [ratio_scaled, ratio, ratio, div_lt_iff₀ positive, Nat.cast_one, div_one, mul_comm]
  split
  · rename_i less
    exact ⟨least, by simpa using below.1 less⟩
  · rename_i reached
    exact ⟨not_lt.1 fun h => reached (below.2 h), most⟩

/-! ## Powers of ten and of two -/

/-- What a power of ten is less than: the logarithm of two is between 3/10 and 28/93. -/
theorem lt_of_tenPow_lt_twoPow {a b : Int} (h : (10 : ℚ) ^ a < 2 ^ b) :
    (0 ≤ a → 93 * a < 28 * b) ∧ (a ≤ 0 → 10 * a < 3 * b) := by
  constructor
  · intro nonneg
    lift a to Nat using nonneg
    have power : (2 : ℚ) ^ (93 * (a : Int)) < 2 ^ (28 * b) := by
      calc (2 : ℚ) ^ (93 * (a : Int))
        _ = (2 ^ 93) ^ a := by rw [zpow_mul, zpow_natCast]; rfl
        _ ≤ (10 ^ 28) ^ a := pow_le_pow_left₀ (by positivity) (by norm_num) a
        _ = (10 ^ (a : Int)) ^ 28 := by rw [zpow_natCast, ← pow_mul, ← pow_mul, Nat.mul_comm]
        _ < (2 ^ b) ^ 28 := pow_lt_pow_left₀ h (by positivity) (by decide)
        _ = 2 ^ (28 * b) := by rw [← zpow_natCast, ← zpow_mul, mul_comm]; rfl
    exact (zpow_lt_zpow_iff_right₀ one_lt_two).1 power
  · intro nonpos
    obtain ⟨k, rfl⟩ : ∃ k : Nat, a = -k := ⟨(-a).toNat, by omega⟩
    have power : (2 : ℚ) ^ (10 * -(k : Int)) < 2 ^ (3 * b) := by
      calc (2 : ℚ) ^ (10 * -(k : Int))
        _ = ((2 ^ 10) ^ k)⁻¹ := by rw [mul_neg, zpow_neg, zpow_mul, zpow_natCast]; rfl
        _ ≤ ((10 ^ 3) ^ k)⁻¹ := by
          apply inv_anti₀ (by positivity)
          exact pow_le_pow_left₀ (by positivity) (by norm_num) k
        _ = (10 ^ (-(k : Int))) ^ 3 := by
          rw [zpow_neg, zpow_natCast, inv_pow, ← pow_mul, ← pow_mul, Nat.mul_comm]
        _ < (2 ^ b) ^ 3 := pow_lt_pow_left₀ h (by positivity) (by decide)
        _ = 2 ^ (3 * b) := by rw [← zpow_natCast, ← zpow_mul, mul_comm]; rfl
    exact (zpow_lt_zpow_iff_right₀ one_lt_two).1 power

/-- What a power of ten is greater than. -/
theorem lt_of_twoPow_lt_tenPow {a b : Int} (h : (2 : ℚ) ^ b < 10 ^ a) :
    (0 ≤ a → 3 * b < 10 * a) ∧ (a ≤ 0 → 28 * b < 93 * a) := by
  have inverse : (10 : ℚ) ^ (-a) < 2 ^ (-b) := by
    rw [zpow_neg, zpow_neg]
    exact inv_strictAnti₀ (by positivity) h
  have bounds := lt_of_tenPow_lt_twoPow inverse
  constructor <;> intro sign
  · have := bounds.2 (by omega)
    omega
  · have := bounds.1 (by omega)
    omega

end Conform.Binary64
