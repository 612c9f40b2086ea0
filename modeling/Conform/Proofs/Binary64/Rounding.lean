import Conform.Binary64.Rounding

/-!
# Rounding keeps the order

Rounding whole numbers to double precision does not change which of two comes first. The magnitude of
a positive number is made of its binary exponent and a significand of fifty-three bits. Within one
exponent the significand grows with the number; from one exponent to the next the magnitude grows by
more than a significand that was rounded up can gain.
-/

namespace Conform.Binary64

/-- The quotient is kept up to a half and raised from a half on; at a half the result is even. -/
theorem divHalfEven_cases (a d : Nat) :
    divHalfEven a d = a / d ∧ 2 * (a % d) ≤ d ∧ (2 * (a % d) = d → a / d % 2 = 0) ∨
      divHalfEven a d = a / d + 1 ∧ d ≤ 2 * (a % d) ∧ (2 * (a % d) = d → a / d % 2 = 1) := by
  unfold divHalfEven
  dsimp only
  split
  · omega
  · split <;> omega

theorem div_le_divHalfEven (a d : Nat) : a / d ≤ divHalfEven a d := by
  have := divHalfEven_cases a d
  omega

theorem divHalfEven_le (a d : Nat) : divHalfEven a d ≤ a / d + 1 := by
  have := divHalfEven_cases a d
  omega

/-- Rounding to even is monotone: the last place can go up only where the quotient does. -/
theorem divHalfEven_mono {a b : Nat} (d : Nat) (h : a ≤ b) : divHalfEven a d ≤ divHalfEven b d := by
  rcases Nat.lt_or_eq_of_le (Nat.div_le_div_right (c := d) h) with less | same
  · have upper := divHalfEven_le a d
    have lower := div_le_divHalfEven b d
    omega
  · have rest : a % d ≤ b % d := by
      have ha := Nat.div_add_mod a d
      have hb := Nat.div_add_mod b d
      rw [same] at ha
      omega
    have ha := divHalfEven_cases a d
    have hb := divHalfEven_cases b d
    omega

/-- A ratio of a whole number to one: its exponent is that of its leading bit. -/
theorem floorLog2_one {n : Nat} (h : n ≠ 0) : floorLog2 n 1 = (Nat.log2 n : Int) := by
  have least : 2 ^ Nat.log2 n ≤ n := Nat.log2_self_le h
  have guess : (Nat.log2 n : Int) - (Nat.log2 1 : Nat) = Nat.log2 n := by
    rw [show Nat.log2 1 = 0 by decide]
    omega
  simp only [floorLog2, guess, scaled, Int.natCast_nonneg, if_true, Int.toNat_natCast]
  rw [if_neg]
  have pow : Nat.pow 2 (Nat.log2 n) = 2 ^ Nat.log2 n := rfl
  omega

/-- The significand of a positive whole number with the given binary exponent. -/
def wholeSignificand (n exponent : Nat) : Nat :=
  if 52 ≤ exponent then divHalfEven n (Nat.pow 2 (exponent - 52)) else n * Nat.pow 2 (52 - exponent)

/-- The magnitude of a whole number: its exponent field over its rounded significand, cut off at
infinity. -/
theorem magnitudeOfRatio_one {n : Nat} (h : n ≠ 0) :
    magnitudeOfRatio n 1 = min infiniteMagnitude
      ((Nat.log2 n + 1022) * hiddenBit + wholeSignificand n (Nat.log2 n)) := by
  have exponent : max (-1074) ((Nat.log2 n : Int) - 52) = (Nat.log2 n : Int) - 52 := by omega
  have field : ((Nat.log2 n : Int) - 52 + 1074).toNat = Nat.log2 n + 1022 := by omega
  unfold magnitudeOfRatio wholeSignificand
  simp only [floorLog2_one h, exponent, field, scaled]
  by_cases big : 52 ≤ Nat.log2 n
  · have nonneg : 0 ≤ (Nat.log2 n : Int) - 52 := by omega
    have shift : ((Nat.log2 n : Int) - 52).toNat = Nat.log2 n - 52 := by omega
    simp only [nonneg, big, if_true, shift, Nat.mul_one, Nat.one_mul]
  · have neg : ¬0 ≤ (Nat.log2 n : Int) - 52 := by omega
    have shift : (-((Nat.log2 n : Int) - 52)).toNat = 52 - Nat.log2 n := by omega
    simp only [neg, big, if_false, shift, Nat.mul_one]
    have whole (m : Nat) : divHalfEven m 1 = m := by
      simp [divHalfEven, Nat.mod_one]
    rw [whole]

/-- A rounded significand has 53 bits, or is the next power of two. The second is the carry that
`magnitudeOfRatio` leaves to the exponent field. -/
theorem wholeSignificand_bounds {n : Nat} (h : n ≠ 0) :
    hiddenBit ≤ wholeSignificand n (Nat.log2 n) ∧
      wholeSignificand n (Nat.log2 n) ≤ 2 * hiddenBit := by
  have least : 2 ^ Nat.log2 n ≤ n := Nat.log2_self_le h
  have most : n < 2 ^ (Nat.log2 n + 1) := Nat.lt_log2_self
  have hidden : hiddenBit = 2 ^ 52 := by decide
  unfold wholeSignificand
  simp only [hidden, Nat.pow_eq]
  split
  · rename_i big
    have split : 2 ^ Nat.log2 n = 2 ^ 52 * 2 ^ (Nat.log2 n - 52) := by
      rw [← Nat.pow_add]
      congr 1
      omega
    have pos : 0 < 2 ^ (Nat.log2 n - 52) := Nat.two_pow_pos _
    have lower : 2 ^ 52 ≤ n / 2 ^ (Nat.log2 n - 52) := by
      rw [Nat.le_div_iff_mul_le pos, ← split]
      exact least
    have upper : n / 2 ^ (Nat.log2 n - 52) < 2 * 2 ^ 52 := by
      rw [Nat.div_lt_iff_lt_mul pos, Nat.mul_assoc, ← split, Nat.mul_comm, ← Nat.pow_succ]
      exact most
    have := div_le_divHalfEven n (2 ^ (Nat.log2 n - 52))
    have := divHalfEven_le n (2 ^ (Nat.log2 n - 52))
    omega
  · rename_i small
    have split : 2 ^ 52 = 2 ^ Nat.log2 n * 2 ^ (52 - Nat.log2 n) := by
      rw [← Nat.pow_add]
      congr 1
      omega
    constructor
    · rw [split]
      exact Nat.mul_le_mul_right _ least
    · rw [Nat.pow_succ, Nat.mul_comm] at most
      have := Nat.mul_le_mul_right (2 ^ (52 - Nat.log2 n)) (Nat.le_of_lt most)
      rwa [Nat.mul_assoc, ← split] at this

theorem wholeSignificand_mono {m n : Nat} (exponent : Nat) (h : m ≤ n) :
    wholeSignificand m exponent ≤ wholeSignificand n exponent := by
  unfold wholeSignificand
  split
  · exact divHalfEven_mono _ h
  · exact Nat.mul_le_mul_right _ h

/-- Rounding a whole number is monotone, across the binades as within one, by `divHalfEven_mono`. -/
theorem magnitudeOfRatio_mono {m n : Nat} (pos : m ≠ 0) (h : m ≤ n) :
    magnitudeOfRatio m 1 ≤ magnitudeOfRatio n 1 := by
  have pos' : n ≠ 0 := by omega
  have upper := (wholeSignificand_bounds pos).2
  have lower := (wholeSignificand_bounds pos').1
  rw [magnitudeOfRatio_one pos, magnitudeOfRatio_one pos']
  suffices (Nat.log2 m + 1022) * hiddenBit + wholeSignificand m (Nat.log2 m)
      ≤ (Nat.log2 n + 1022) * hiddenBit + wholeSignificand n (Nat.log2 n) by omega
  have exponents : Nat.log2 m ≤ Nat.log2 n :=
    (Nat.le_log2 pos').2 (Nat.le_trans (Nat.log2_self_le pos) h)
  rcases Nat.lt_or_eq_of_le exponents with less | same
  · have step := Nat.mul_le_mul_right hiddenBit (show Nat.log2 m + 1 + 1022 ≤ Nat.log2 n + 1022 by omega)
    have next : (Nat.log2 m + 1 + 1022) * hiddenBit = (Nat.log2 m + 1022) * hiddenBit + hiddenBit := by
      rw [show Nat.log2 m + 1 + 1022 = Nat.log2 m + 1022 + 1 by omega, Nat.succ_mul]
    omega
  · have := wholeSignificand_mono (Nat.log2 n) h
    rw [same]
    omega

theorem magnitudeOfRatio_lt (num den : Nat) : magnitudeOfRatio num den < signBit := by
  have : infiniteMagnitude < signBit := by decide
  unfold magnitudeOfRatio
  dsimp only
  omega

/-- What `ofMagnitude` packs is the magnitude and the sign bit, apart. -/
theorem toNat_bits_ofMagnitude {m : Nat} (h : m < signBit) (negative : Bool) :
    (ofMagnitude negative m).bits.toNat = m + if negative then signBit else 0 := by
  have two : signBit + signBit = UInt64.size := by decide
  apply UInt64.toNat_ofNat_of_lt'
  split <;> omega

theorem negative_ofMagnitude {m : Nat} (h : m < signBit) (negative : Bool) :
    (ofMagnitude negative m).negative = negative := by
  unfold Binary64.negative
  rw [toNat_bits_ofMagnitude h]
  cases negative
  · simpa using h
  · simp

theorem magnitude_ofMagnitude {m : Nat} (h : m < signBit) (negative : Bool) :
    (ofMagnitude negative m).magnitude = m := by
  unfold magnitude
  rw [toNat_bits_ofMagnitude h]
  cases negative
  · exact Nat.mod_eq_of_lt h
  · exact (Nat.add_mod_right m signBit).trans (Nat.mod_eq_of_lt h)

/-- A number is made of its sign and its magnitude. -/
theorem ofMagnitude_self (x : Binary64) : ofMagnitude x.negative x.magnitude = x := by
  have bound := x.bits.toNat_lt
  have sum : (x.magnitude + if x.negative then signBit else 0) = x.bits.toNat := by
    by_cases high : signBit ≤ x.bits.toNat
    · rw [negative, decide_eq_true high, if_pos rfl, magnitude]
      unfold signBit at *
      omega
    · rw [negative, decide_eq_false high, if_neg Bool.false_ne_true, magnitude]
      unfold signBit at *
      omega
  rw [ofMagnitude, sum, UInt64.ofNat_toNat]

/-- The rank by which numbers are ordered counts down from -1 below zero, so the two zeros differ. -/
theorem rank_ofMagnitude {m : Nat} (h : m < signBit) (negative : Bool) :
    (ofMagnitude negative m).rank = if negative then -(m : Int) - 1 else m := by
  rw [rank, negative_ofMagnitude h, magnitude_ofMagnitude h]

theorem negative_ofInt (i : Int) : (ofInt i).negative = decide (i < 0) := by
  unfold ofInt ofRatio
  split
  · exact negative_ofMagnitude (by decide) _
  · exact negative_ofMagnitude (magnitudeOfRatio_lt _ _) _

theorem magnitude_ofInt {i : Int} (h : i ≠ 0) : (ofInt i).magnitude = magnitudeOfRatio i.natAbs 1 := by
  unfold ofInt ofRatio
  rw [if_neg (Int.natAbs_ne_zero.2 h)]
  exact magnitude_ofMagnitude (magnitudeOfRatio_lt _ _) _

/-- The rank of a whole number. -/
theorem rank_ofInt (i : Int) : (ofInt i).rank =
    if i = 0 then 0 else if i < 0 then -(magnitudeOfRatio i.natAbs 1 : Int) - 1
      else magnitudeOfRatio i.natAbs 1 := by
  by_cases zero : i = 0
  · subst zero
    exact rank_ofMagnitude (by decide) false
  · rw [rank, negative_ofInt, magnitude_ofInt zero, if_neg zero]
    by_cases neg : i < 0 <;> simp [neg]

/-- Rounding whole numbers keeps their order. -/
theorem rank_ofInt_mono {i j : Int} (h : i ≤ j) : (ofInt i).rank ≤ (ofInt j).rank := by
  rw [rank_ofInt, rank_ofInt]
  by_cases hi : i = 0
  · have : ¬j < 0 := by omega
    rw [if_pos hi, if_neg this]
    split <;> omega
  · by_cases hj : j = 0
    · rw [if_neg hi, if_pos hj]
      split <;> omega
    · rw [if_neg hi, if_neg hj]
      by_cases neg : i < 0
      · rw [if_pos neg]
        split
        · have := magnitudeOfRatio_mono (show j.natAbs ≠ 0 by omega) (show j.natAbs ≤ i.natAbs by omega)
          omega
        · omega
      · have := magnitudeOfRatio_mono (show i.natAbs ≠ 0 by omega) (show i.natAbs ≤ j.natAbs by omega)
        rw [if_neg neg, if_neg (by omega)]
        omega

end Conform.Binary64
