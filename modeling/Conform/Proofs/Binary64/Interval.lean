import Conform.Proofs.Binary64.Ratio
import Conform.Proofs.Binary64.Value
import Mathlib.Tactic.FieldSimp

/-!
# What rounds to a number

The rationals that round to a positive number are those between the midpoints to its neighbours, the
midpoints included if its significand is even. Whatever ratio of natural numbers lies there is rounded to
the number, and so is every decimal.
-/

namespace Conform.Binary64

variable {x : Binary64} {r : ℚ} {num den : Nat}

/-! ## Significands -/

/-- A ratio is rounded to a whole number that is at most a half away, and less if it is odd. -/
theorem divHalfEven_eq {n : Nat} (hd : 0 < den) (least : (n : ℚ) - 1 / 2 ≤ ratio (num, den))
    (most : ratio (num, den) ≤ n + 1 / 2)
    (odd : n % 2 = 1 → (n : ℚ) - 1 / 2 < ratio (num, den) ∧ ratio (num, den) < n + 1 / 2) :
    divHalfEven num den = n := by
  have positive : (0 : ℚ) < den := Nat.cast_pos.2 hd
  unfold ratio at least most odd
  rw [le_div_iff₀ positive] at least
  rw [div_le_iff₀ positive] at most
  rw [lt_div_iff₀ positive, div_lt_iff₀ positive] at odd
  have lower : 2 * (n * den) ≤ 2 * num + den := by
    have : (2 * (n * den) : ℚ) ≤ 2 * num + den := by linarith
    exact_mod_cast this
  have upper : 2 * num ≤ 2 * (n * den) + den := by
    have : (2 * num : ℚ) ≤ 2 * (n * den) + den := by linarith
    exact_mod_cast this
  have strict : n % 2 = 1 → 2 * (n * den) < 2 * num + den ∧ 2 * num < 2 * (n * den) + den := by
    intro h
    obtain ⟨low, high⟩ := odd h
    have low : (2 * (n * den) : ℚ) < 2 * num + den := by linarith
    have high : (2 * num : ℚ) < 2 * (n * den) + den := by linarith
    exact ⟨by exact_mod_cast low, by exact_mod_cast high⟩
  have whole := Nat.div_add_mod num den
  have rest := Nat.mod_lt num hd
  have cases := divHalfEven_cases num den
  rw [Nat.mul_comm] at whole
  generalize num / den = quotient at whole cases
  -- The quotient is the number or the one below it: anything else is too far away.
  have near : quotient = n ∨ quotient + 1 = n := by
    by_contra far
    rcases Nat.lt_or_ge n quotient with less | more
    · have := Nat.mul_le_mul_right den (show n + 1 ≤ quotient from less)
      rw [Nat.succ_mul] at this
      omega
    · have := Nat.mul_le_mul_right den (show quotient + 2 ≤ n by omega)
      rw [Nat.add_mul] at this
      omega
  rcases near with rfl | rfl
  · omega
  · have next : (quotient + 1) * den = quotient * den + den := Nat.succ_mul quotient den
    omega

/-! ## The interval -/

/-- The lower end of the interval. Below a power of two the neighbour is only half as far away. -/
def lowEnd (x : Binary64) : ℚ :=
  (x.significand - if x.significand = hiddenBit ∧ -1074 < x.exponent then 1 / 4 else 1 / 2) *
    2 ^ x.exponent

def highEnd (x : Binary64) : ℚ :=
  (x.significand + 1 / 2) * 2 ^ x.exponent

/-- A rational lies in the interval of a positive number, or at one of its ends if these count. -/
structure Rounds (x : Binary64) (r : ℚ) : Prop where
  low : x.lowEnd ≤ r
  high : r ≤ x.highEnd
  odd : x.significand % 2 = 1 → x.lowEnd < r ∧ r < x.highEnd

theorem significand_lt (x : Binary64) : x.significand < 2 * hiddenBit := by
  have pos : 0 < hiddenBit := by decide
  have rest := Nat.mod_lt x.magnitude pos
  unfold significand
  split <;> omega

/-- The significand of a number with a greater exponent than the least has all its bits. -/
theorem hiddenBit_le_significand (h : -1074 < x.exponent) : hiddenBit ≤ x.significand := by
  unfold exponent at h
  unfold significand
  split at h
  · omega
  · rename_i large
    rw [if_neg large]
    exact Nat.le_add_left _ _

/-- The bits under the sign, as the biased exponent above the significand. Subnormal numbers and
normal ones share the equation, as `significand` holds the hidden bit. -/
theorem magnitude_eq (x : Binary64) :
    x.magnitude = (x.exponent + 1074).toNat * hiddenBit + x.significand := by
  have pos : 0 < hiddenBit := by decide
  unfold exponent significand
  split
  · simp
  · rename_i large
    have field := Nat.div_pos (Nat.le_of_not_lt large) pos
    have whole := Nat.div_add_mod' x.magnitude hiddenBit
    have shift : (((x.magnitude / hiddenBit : Nat) : Int) - 1075 + 1074).toNat
        = x.magnitude / hiddenBit - 1 := by omega
    have split : x.magnitude / hiddenBit * hiddenBit
        = (x.magnitude / hiddenBit - 1) * hiddenBit + hiddenBit := by
      rw [← Nat.succ_mul]
      congr 1
      omega
    rw [shift]
    omega

theorem hiddenBit_cast : (hiddenBit : ℚ) = 2 ^ (52 : Int) := by
  have : hiddenBit = 2 ^ 52 := by decide
  rw [this]
  norm_num

/-- The magnitude by the exponent that is used for rounding. -/
theorem magnitudeOfRatio_eq {q : Int} (h : max (-1074) (floorLog2 num den - 52) = q) {n : Nat}
    (hn : divHalfEven (num * (scaled 1 q).2) (den * (scaled 1 q).1) = n) :
    magnitudeOfRatio num den = min infiniteMagnitude ((q + 1074).toNat * hiddenBit + n) := by
  subst h hn
  rfl

/-- Rounding is to whole multiples of a power of two. -/
theorem ratio_in_units (num : Nat) (hd : 0 < den) (q : Int) :
    0 < den * (scaled 1 q).1 ∧
      ratio (num * (scaled 1 q).2, den * (scaled 1 q).1) = ratio (num, den) / 2 ^ q := by
  have unit : ratio (scaled 1 q) = 2 ^ q := by rw [ratio_scaled, Nat.cast_one, one_mul]
  have below : 0 < (scaled 1 q).2 := scaled_snd_pos 1 q
  have above : 0 < (scaled 1 q).1 := by
    unfold scaled
    split
    · exact Nat.mul_pos Nat.one_pos (Nat.two_pow_pos _)
    · exact Nat.one_pos
  refine ⟨Nat.mul_pos hd above, ?_⟩
  rw [← unit]
  unfold ratio
  push_cast
  field_simp

/-- A ratio that rounds to a number is less than two to the fifty-third of its units. -/
theorem Rounds.lt (h : x.Rounds r) : r < 2 ^ (x.exponent + 53) := by
  have unit : (0 : ℚ) < 2 ^ x.exponent := by positivity
  have few : (x.significand : ℚ) + 1 ≤ 2 * hiddenBit := by exact_mod_cast x.significand_lt
  calc r
    _ ≤ (x.significand + 1 / 2) * 2 ^ x.exponent := h.high
    _ < 2 * hiddenBit * 2 ^ x.exponent := by
      apply mul_lt_mul_of_pos_right _ unit
      linarith
    _ = 2 ^ (x.exponent + 53) := by
      rw [hiddenBit_cast, zpow_add₀ two_ne_zero]
      norm_num
      ring

/-- In units of a number the interval reaches half a unit at most to either side. -/
theorem Rounds.units (h : x.Rounds r) :
    (x.significand : ℚ) - 1 / 2 ≤ r / 2 ^ x.exponent ∧ r / 2 ^ x.exponent ≤ x.significand + 1 / 2 ∧
      (x.significand % 2 = 1 → (x.significand : ℚ) - 1 / 2 < r / 2 ^ x.exponent ∧
        r / 2 ^ x.exponent < x.significand + 1 / 2) := by
  have unit : (0 : ℚ) < 2 ^ x.exponent := by positivity
  have low := h.low
  have odd := h.odd
  unfold lowEnd at low odd
  unfold highEnd at odd
  rw [le_div_iff₀ unit, div_le_iff₀ unit, lt_div_iff₀ unit, div_lt_iff₀ unit]
  refine ⟨le_trans ?_ low, h.high, fun isOdd => ?_⟩
  · apply mul_le_mul_of_nonneg_right _ unit.le
    split <;> linarith
  · -- A power of two is even.
    have plain : ¬(x.significand = hiddenBit ∧ -1074 < x.exponent) := by
      rintro ⟨same, -⟩
      rw [same] at isOdd
      revert isOdd
      decide
    rw [if_neg plain] at odd
    exact odd isOdd

/-- Below the powers of two from its own on there is only the interval of a power of two. -/
theorem Rounds.below (h : x.Rounds r) (greater : -1074 < x.exponent) (less : r < 2 ^ (x.exponent + 52)) :
    x.significand = hiddenBit ∧ (2 * hiddenBit : ℚ) - 1 / 2 ≤ r / 2 ^ (x.exponent - 1) := by
  have unit : (0 : ℚ) < 2 ^ x.exponent := by positivity
  have least := hiddenBit_le_significand greater
  have low := h.low
  rw [zpow_add₀ two_ne_zero, ← hiddenBit_cast, mul_comm] at less
  have hidden : x.significand = hiddenBit := by
    by_contra other
    have more : (hiddenBit : ℚ) + 1 ≤ x.significand := by
      exact_mod_cast Nat.lt_of_le_of_ne least (Ne.symm other)
    unfold lowEnd at low
    rw [if_neg fun both => other both.1] at low
    have := lt_of_mul_lt_mul_right (low.trans_lt less) unit.le
    linarith
  refine ⟨hidden, ?_⟩
  unfold lowEnd at low
  rw [if_pos ⟨hidden, greater⟩, hidden] at low
  rw [zpow_sub_one₀ two_ne_zero, le_div_iff₀ (by positivity)]
  linarith

section Rounding

variable (hn : 0 < num) (hd : 0 < den) (h : x.Rounds (ratio (num, den)))

include hn hd h

/-- Below a power of two the units are half as great as those of the number. -/
theorem Rounds.exponent_below (less : max (-1074) (floorLog2 num den - 52) < x.exponent) :
    max (-1074) (floorLog2 num den - 52) = x.exponent - 1 ∧
      ratio (num, den) < 2 ^ (x.exponent + 52) := by
  obtain ⟨least, most⟩ := floorLog2_bounds hn hd
  have below : ratio (num, den) < 2 ^ (x.exponent + 52) :=
    most.trans_le (zpow_le_zpow_right₀ one_le_two (by omega))
  have unit : (0 : ℚ) < 2 ^ (x.exponent - 1) := by positivity
  have hiddenPos : (1 : ℚ) ≤ hiddenBit := by exact_mod_cast (show 1 ≤ hiddenBit by decide)
  have power : (2 : ℚ) ^ (x.exponent + 51) < 2 ^ (floorLog2 num den + 1) := by
    calc (2 : ℚ) ^ (x.exponent + 51)
      _ = hiddenBit * 2 ^ (x.exponent - 1) := by
        rw [hiddenBit_cast, ← zpow_add₀ two_ne_zero]
        congr 1
        ring
      _ < (2 * hiddenBit - 1 / 2) * 2 ^ (x.exponent - 1) := by
        apply mul_lt_mul_of_pos_right _ unit
        linarith
      _ ≤ ratio (num, den) := (le_div_iff₀ unit).1 (h.below (by omega) below).2
      _ < 2 ^ (floorLog2 num den + 1) := most
  have := (zpow_lt_zpow_iff_right₀ one_lt_two).1 power
  exact ⟨by omega, below⟩

/-- In these units the ratio is rounded up, to the power of two. -/
theorem Rounds.magnitude_below (less : max (-1074) (floorLog2 num den - 52) < x.exponent) :
    magnitudeOfRatio num den = min infiniteMagnitude x.magnitude := by
  obtain ⟨exponent, below⟩ := h.exponent_below hn hd less
  obtain ⟨hidden, reached⟩ := h.below (by omega) below
  have rounded : divHalfEven (num * (scaled 1 (x.exponent - 1)).2)
      (den * (scaled 1 (x.exponent - 1)).1) = 2 * hiddenBit := by
    have units := ratio_in_units num hd (x.exponent - 1)
    have most : ratio (num, den) / 2 ^ (x.exponent - 1) ≤ 2 * hiddenBit := by
      rw [div_le_iff₀ (by positivity)]
      refine below.le.trans_eq ?_
      rw [hiddenBit_cast, ← zpow_one_add₀ two_ne_zero, ← zpow_add₀ two_ne_zero]
      congr 1
      ring
    apply divHalfEven_eq units.1 <;> rw [units.2] <;> push_cast
    · exact reached
    · linarith
    · omega
  have carry : (x.exponent - 1 + 1074).toNat * hiddenBit + 2 * hiddenBit = x.magnitude := by
    have field : (x.exponent + 1074).toNat = (x.exponent - 1 + 1074).toNat + 1 := by omega
    rw [magnitude_eq x, field, hidden, Nat.add_mul, Nat.one_mul, Nat.two_mul, Nat.add_assoc]
  rw [magnitudeOfRatio_eq exponent rounded, carry]

/-- **A ratio in the interval of a number rounds to it.** -/
theorem magnitudeOfRatio_of_rounds (finite : x.isFinite = true) :
    magnitudeOfRatio num den = x.magnitude := by
  have small : x.magnitude < infiniteMagnitude := of_decide_eq_true finite
  -- The exponent is not greater than that of the number.
  have upper : floorLog2 num den - 52 ≤ x.exponent := by
    have := (zpow_lt_zpow_iff_right₀ one_lt_two).1 ((floorLog2_bounds hn hd).1.trans_lt h.lt)
    omega
  rcases (max_le (exponent_ge x) upper).lt_or_eq with less | same
  · rw [h.magnitude_below hn hd less, Nat.min_eq_right small.le]
  · have units := ratio_in_units num hd x.exponent
    have rounded : divHalfEven (num * (scaled 1 x.exponent).2) (den * (scaled 1 x.exponent).1)
        = x.significand := by
      obtain ⟨low, high, odd⟩ := h.units
      rw [← units.2] at low high odd
      exact divHalfEven_eq units.1 low high odd
    rw [magnitudeOfRatio_eq same rounded, ← magnitude_eq, Nat.min_eq_right small.le]

end Rounding

/-! ## Decimals -/

theorem exponent_le (finite : x.isFinite = true) : x.exponent ≤ 971 := by
  have small : x.magnitude < 0x7FF * hiddenBit := of_decide_eq_true finite
  have := Nat.div_lt_of_lt_mul (Nat.mul_comm _ hiddenBit ▸ small)
  unfold exponent
  split <;> omega

/-- Nothing below a half of the least positive number rounds to a number that is not zero. -/
theorem Rounds.least_le (h : x.Rounds r) (nonzero : x.significand ≠ 0) : 2 ^ (-1075 : Int) ≤ r := by
  have some : (1 : ℚ) ≤ x.significand := by exact_mod_cast Nat.one_le_iff_ne_zero.2 nonzero
  have unit : (2 : ℚ) ^ (-1074 : Int) ≤ 2 ^ x.exponent := zpow_le_zpow_right₀ one_le_two (exponent_ge x)
  calc (2 : ℚ) ^ (-1075 : Int)
    _ = 1 / 2 * 2 ^ (-1074 : Int) := by
      rw [one_div, ← zpow_neg_one, ← zpow_add₀ two_ne_zero]
      norm_num
    _ ≤ 1 / 2 * 2 ^ x.exponent := by gcongr
    _ ≤ x.lowEnd := by
      unfold lowEnd
      apply mul_le_mul_of_nonneg_right _ (by positivity)
      split <;> linarith
    _ ≤ r := h.low

/-- Nothing beyond the range of the format rounds to a finite number. -/
theorem Rounds.lt_most (h : x.Rounds r) (finite : x.isFinite = true) : r < 2 ^ (1024 : Int) := by
  have := exponent_le finite
  exact h.lt.trans_le (zpow_le_zpow_right₀ one_le_two (by omega))

/-- A positive number by its digits. -/
theorem length_toDigits_bounds {n : Nat} (h : 0 < n) :
    Nat.pow 10 ((Nat.toDigits 10 n).length - 1) ≤ n ∧ n < Nat.pow 10 (Nat.toDigits 10 n).length := by
  have pos : 0 < (Nat.toDigits 10 n).length := Nat.length_toDigits_pos
  have few (k : Nat) (hk : 0 < k) := Nat.length_toDigits_le_iff (b := 10) (n := n) (by decide) hk
  refine ⟨?_, (few _ pos).1 (Nat.le_refl _)⟩
  rcases Nat.eq_zero_or_pos ((Nat.toDigits 10 n).length - 1) with zero | more
  · rw [zero]
    exact h
  · refine Nat.not_lt.1 fun less => ?_
    have := (few _ more).2 less
    omega

/-- A positive decimal by the places of its digits. -/
theorem tenPow_bounds {digits : Nat} (pos : 0 < digits) (exponent : Int) :
    (10 : ℚ) ^ (exponent + (Nat.toDigits 10 digits).length - 1) ≤ digits * 10 ^ exponent ∧
      digits * 10 ^ exponent < (10 : ℚ) ^ (exponent + (Nat.toDigits 10 digits).length) := by
  obtain ⟨least, most⟩ := length_toDigits_bounds pos
  have length : 0 < (Nat.toDigits 10 digits).length := Nat.length_toDigits_pos
  generalize (Nat.toDigits 10 digits).length = places at least most length ⊢
  obtain ⟨before, rfl⟩ : ∃ before, places = before + 1 := ⟨places - 1, by omega⟩
  have unit : (0 : ℚ) < 10 ^ exponent := by positivity
  have least : (10 : ℚ) ^ before ≤ digits := by exact_mod_cast least
  have most : (digits : ℚ) < 10 ^ (before + 1) := by exact_mod_cast most
  constructor
  · calc (10 : ℚ) ^ (exponent + (before + 1 : Nat) - 1)
      _ = 10 ^ before * 10 ^ exponent := by
        rw [← zpow_natCast, ← zpow_add₀ (by norm_num)]
        congr 1
        push_cast
        ring
      _ ≤ digits * 10 ^ exponent := by gcongr
  · calc digits * (10 : ℚ) ^ exponent
      _ < 10 ^ (before + 1) * 10 ^ exponent := by gcongr
      _ = 10 ^ (exponent + (before + 1 : Nat)) := by
        rw [← zpow_natCast, ← zpow_add₀ (by norm_num), add_comm]

/-- **A decimal in the interval of a number rounds to it.** -/
theorem ofDecimal_of_rounds (finite : x.isFinite = true) (nonzero : x.significand ≠ 0) {digits : Nat}
    {exponent : Int} (h : x.Rounds (digits * 10 ^ exponent)) :
    ofDecimal x.negative digits exponent = x := by
  have least := h.least_le nonzero
  have most := h.lt_most finite
  have pos : 0 < digits := by
    refine Nat.pos_of_ne_zero fun zero => ?_
    rw [zero, Nat.cast_zero, zero_mul] at least
    exact absurd (show (0 : ℚ) < 2 ^ (-1075 : Int) by positivity) least.not_gt
  obtain ⟨lower, upper⟩ := tenPow_bounds pos exponent
  have notSmall := lt_of_twoPow_lt_tenPow (least.trans_lt upper)
  have notLarge := lt_of_tenPow_lt_twoPow (lower.trans_lt most)
  have rounded : magnitudeOfRatio (tenfold digits exponent).1 (tenfold digits exponent).2
      = x.magnitude := by
    rw [← ratio_tenfold] at h
    exact magnitudeOfRatio_of_rounds (tenfold_fst_pos pos exponent) (tenfold_snd_pos digits exponent)
      h finite
  have asRatio : ofDecimal x.negative digits exponent
      = ofRatio x.negative (tenfold digits exponent).1 (tenfold digits exponent).2 := by
    unfold ofDecimal tenfold
    dsimp only
    rw [if_neg (by omega), if_neg (by omega)]
    split <;> rfl
  rw [asRatio, ofRatio, if_neg (tenfold_fst_pos pos exponent).ne', rounded, ofMagnitude_self]

end Conform.Binary64
