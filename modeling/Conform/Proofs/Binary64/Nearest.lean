import Conform.Proofs.Binary64.Rounding
import Mathlib.Data.Nat.Dist

/-!
# The nearest number

Every finite number is a whole multiple of the least positive one, and so is every whole number: one
is two to the 1074 of these units. So distances are natural numbers, and it can be said in them that a
number is the nearest to a whole one. Rounding gives such a number.

A whole number with `e + 1` binary digits is rounded on a grid of steps of two to the `e + 1022` units.
The finite numbers off the grid are smaller than any number of so many digits, and the grid has a point
in between.
-/

namespace Conform.Binary64

/-- How many of the least positive number make one. -/
def unitsInOne : Nat := Nat.pow 2 1074

/-- A finite number as a multiple of the least positive one. -/
def units (x : Binary64) : Int :=
  let size := x.significand * Nat.pow 2 (x.exponent + 1074).toNat
  if x.negative then -size else size

/-- How far a finite number is from a whole number, in the same units. -/
def distance (x : Binary64) (i : Int) : Nat :=
  (x.units - i * unitsInOne).natAbs

/-- The finite number nearest to a whole number; of two that are equally near, the one with the even
significand. -/
structure Nearest (x : Binary64) (i : Int) : Prop where
  finite : x.isFinite = true
  near : ∀ y : Binary64, y.isFinite = true → x.distance i ≤ y.distance i
  even : ∀ y : Binary64, y.isFinite = true → y.distance i = x.distance i → y.units ≠ x.units →
    x.significand % 2 = 0

/-! ## Numbers in units -/

/-- The absolute value of the number of a finite magnitude, in units. -/
def unitsOfMagnitude (m : Nat) : Nat :=
  if m < hiddenBit then m else (m % hiddenBit + hiddenBit) * Nat.pow 2 (m / hiddenBit - 1)

theorem units_eq (x : Binary64) : x.units =
    if x.negative then -(unitsOfMagnitude x.magnitude : Int) else unitsOfMagnitude x.magnitude := by
  have size : x.significand * Nat.pow 2 (x.exponent + 1074).toNat = unitsOfMagnitude x.magnitude := by
    unfold significand exponent unitsOfMagnitude
    by_cases small : x.magnitude < hiddenBit
    · rw [if_pos small, if_pos small, if_pos small]
      exact Nat.mul_one _
    · have shift : (((x.magnitude / hiddenBit : Nat) : Int) - 1075 + 1074).toNat
          = x.magnitude / hiddenBit - 1 := by
        omega
      rw [if_neg small, if_neg small, if_neg small, shift]
  rw [units, size]

/-- The size of a finite number has fifty-three binary digits, but for zeros behind them. -/
theorem exists_unitsOfMagnitude (m : Nat) :
    ∃ digits zeros, digits < 2 * hiddenBit ∧ unitsOfMagnitude m = digits * Nat.pow 2 zeros := by
  have pos : 0 < hiddenBit := by decide
  unfold unitsOfMagnitude
  split
  · exact ⟨m, 0, by omega, (Nat.mul_one m).symm⟩
  · have := Nat.mod_lt m pos
    exact ⟨m % hiddenBit + hiddenBit, m / hiddenBit - 1, by omega, rfl⟩

/-- A significand over an exponent field; the carry out of it makes no difference. -/
theorem unitsOfMagnitude_field {sig : Nat} (least : hiddenBit ≤ sig) (most : sig ≤ 2 * hiddenBit)
    (field : Nat) : unitsOfMagnitude (field * hiddenBit + sig) = sig * Nat.pow 2 field := by
  have pos : 0 < hiddenBit := by decide
  have large : ¬field * hiddenBit + sig < hiddenBit := by omega
  rw [unitsOfMagnitude, if_neg large, Nat.mul_add_mod', Nat.add_comm (field * hiddenBit),
    Nat.add_mul_div_right _ _ pos]
  by_cases carry : sig = 2 * hiddenBit
  · have double : Nat.pow 2 (field + 1) = 2 * Nat.pow 2 field := Nat.pow_succ'
    rw [carry, Nat.mul_mod_left, Nat.mul_div_cancel _ pos, show 2 + field - 1 = field + 1 by omega,
      Nat.zero_add, double, Nat.mul_left_comm, Nat.mul_assoc]
  · have one : sig / hiddenBit = 1 := Nat.div_eq_of_lt_le (by omega) (by omega)
    have rest := Nat.div_add_mod sig hiddenBit
    rw [one] at rest ⊢
    rw [show 1 + field - 1 = field by omega, show sig % hiddenBit + hiddenBit = sig by omega]

/-- An exponent field in front of a significand leaves its parity alone, and parity is what decides
a tie. -/
theorem significand_field {sig : Nat} (least : hiddenBit ≤ sig) {field : Nat}
    (h : field * hiddenBit + sig < signBit) (negative : Bool) :
    (ofMagnitude negative (field * hiddenBit + sig)).significand % 2 = sig % 2 := by
  have even : hiddenBit % 2 = 0 := by decide
  have large : ¬field * hiddenBit + sig < hiddenBit := by omega
  rw [significand, magnitude_ofMagnitude h, if_neg large, Nat.mul_add_mod']
  have rest := Nat.div_add_mod sig hiddenBit
  have whole : hiddenBit * (sig / hiddenBit) % 2 = 0 := by
    rw [Nat.mul_mod, even, Nat.zero_mul, Nat.zero_mod]
  omega

/-! ## The nearest point of the grid -/

/-- A size is as near to a target as another size; if they differ and are equally near, it is the even
one. -/
structure Preferred (target size other : Nat) (even : Prop) : Prop where
  near : Nat.dist size target ≤ Nat.dist other target
  even : Nat.dist other target = Nat.dist size target → other ≠ size → even

theorem Preferred.scale {target size other : Nat} {even : Prop} (h : Preferred target size other even)
    {c : Nat} (pos : 0 < c) : Preferred (target * c) (size * c) (other * c) even where
  near := by
    rw [Nat.dist_mul_right, Nat.dist_mul_right]
    exact Nat.mul_le_mul_right c h.near
  even tie differ := by
    rw [Nat.dist_mul_right, Nat.dist_mul_right] at tie
    exact h.even (Nat.eq_of_mul_eq_mul_right pos tie) fun same => differ (by rw [same])

/-- Rounding a quotient is choosing among the multiples of the divisor. -/
theorem preferred_divHalfEven (a : Nat) {d : Nat} (pos : 0 < d) (k : Nat) :
    Preferred a (divHalfEven a d * d) (k * d) (divHalfEven a d % 2 = 0) := by
  have rest := Nat.div_add_mod' a d
  have below := Nat.mod_lt a pos
  have next : (a / d + 1) * d = a / d * d + d := Nat.succ_mul _ _
  -- The number lies between the multiples at the quotient and after it; the others are beyond these.
  have sides : k * d + d ≤ a / d * d ∨ k * d = a / d * d ∨ k * d = a / d * d + d ∨
      a / d * d + d + d ≤ k * d := by
    rcases Nat.lt_trichotomy k (a / d) with less | rfl | more
    · left
      rw [← Nat.succ_mul]
      exact Nat.mul_le_mul_right d less
    · exact .inr (.inl rfl)
    · rcases Nat.lt_or_eq_of_le (Nat.succ_le_of_lt more) with more | rfl
      · right; right; right
        rw [← next, ← Nat.succ_mul]
        exact Nat.mul_le_mul_right d more
      · exact .inr (.inr (.inl next))
  rcases divHalfEven_cases a d with ⟨value, low, half⟩ | ⟨value, high, half⟩
  · rw [value]
    constructor <;> unfold Nat.dist <;> omega
  · rw [value, next]
    constructor <;> unfold Nat.dist <;> omega

/-- The step of the grid on which a whole number with `exponent + 1` binary digits is rounded. -/
def step (exponent : Nat) : Nat := Nat.pow 2 (exponent + 1022)

theorem step_pos (exponent : Nat) : 0 < step exponent :=
  Nat.two_pow_pos _

theorem pow_mul_step (a b : Nat) : Nat.pow 2 a * step b = step (a + b) := by
  unfold step
  rw [Nat.add_assoc]
  exact (Nat.pow_add 2 a (b + 1022)).symm

/-- A whole number of fifty-three binary digits is rounded in steps of one. -/
theorem step_unitsInOne : step 52 = unitsInOne := by
  decide +kernel

theorem unitsInOne_pos : 0 < unitsInOne :=
  step_unitsInOne ▸ step_pos 52

/-- Below two to the fifty-second, whole numbers are on the grid. -/
theorem wholeSignificand_mul_step (n : Nat) {exponent : Nat} (h : exponent < 52) :
    wholeSignificand n exponent * step exponent = n * unitsInOne := by
  have product : Nat.pow 2 (52 - exponent) * step exponent = unitsInOne := by
    rw [pow_mul_step, Nat.sub_add_cancel (by omega), step_unitsInOne]
  rw [wholeSignificand, if_neg (by omega), Nat.mul_assoc, product]

/-- The step of rounding: no multiple of the last place is nearer to `n` than `wholeSignificand`,
and between two it takes the even one. -/
theorem preferred_wholeSignificand (n exponent k : Nat) :
    Preferred (n * unitsInOne) (wholeSignificand n exponent * step exponent) (k * step exponent)
      (wholeSignificand n exponent % 2 = 0) := by
  by_cases big : 52 ≤ exponent
  · have split : step exponent = Nat.pow 2 (exponent - 52) * unitsInOne := by
      rw [← step_unitsInOne, pow_mul_step, Nat.sub_add_cancel big]
    rw [wholeSignificand, if_pos big, split, ← Nat.mul_assoc, ← Nat.mul_assoc]
    exact (preferred_divHalfEven n (Nat.two_pow_pos (exponent - 52)) k).scale unitsInOne_pos
  · rw [wholeSignificand_mul_step n (Nat.lt_of_not_le big)]
    constructor
    · rw [Nat.dist_self]
      exact Nat.zero_le _
    · intro tie differ
      rw [Nat.dist_self] at tie
      exact absurd (Nat.eq_of_dist_eq_zero tie) differ

/-- What has fifty-three binary digits and zeros behind them lies on the grid or below all numbers
that are rounded on it. -/
theorem on_grid_or_less {digits : Nat} (h : digits < 2 * hiddenBit) (zeros exponent : Nat) :
    (∃ k, digits * Nat.pow 2 zeros = k * step exponent) ∨
      digits * Nat.pow 2 zeros < hiddenBit * step exponent := by
  unfold step
  rw [Nat.pow_eq, Nat.pow_eq]
  by_cases fine : exponent + 1022 ≤ zeros
  · left
    refine ⟨digits * 2 ^ (zeros - (exponent + 1022)), ?_⟩
    rw [Nat.mul_assoc, ← Nat.pow_add, Nat.sub_add_cancel fine]
  · right
    have half : 2 ^ (exponent + 1022) = 2 * 2 ^ (exponent + 1021) := Nat.pow_succ'
    calc digits * 2 ^ zeros
      _ ≤ digits * 2 ^ (exponent + 1021) :=
        Nat.mul_le_mul_left _ (Nat.pow_le_pow_right (by decide) (by omega))
      _ < 2 * hiddenBit * 2 ^ (exponent + 1021) := Nat.mul_lt_mul_of_pos_right h (Nat.two_pow_pos _)
      _ = hiddenBit * 2 ^ (exponent + 1022) := by rw [half, Nat.mul_comm 2, Nat.mul_assoc]

/-- In steps of its own exponent a number is at least the hidden bit. -/
theorem grid_le {n : Nat} (h : n ≠ 0) : hiddenBit * step (Nat.log2 n) ≤ n * unitsInOne := by
  have least : Nat.pow 2 (Nat.log2 n) ≤ n := Nat.log2_self_le h
  have hidden : hiddenBit = Nat.pow 2 52 := by decide
  have first : hiddenBit * step (Nat.log2 n) = Nat.pow 2 (Nat.log2 n) * unitsInOne := by
    rw [hidden, ← step_unitsInOne, pow_mul_step, pow_mul_step, Nat.add_comm]
  rw [first]
  exact Nat.mul_le_mul_right _ least

/-- The rounded significand of a whole number against any number of fifty-three binary digits. -/
theorem preferred_significand {n : Nat} (pos : n ≠ 0) (m : Nat) :
    Preferred (n * unitsInOne) (wholeSignificand n (Nat.log2 n) * step (Nat.log2 n)) (unitsOfMagnitude m)
      (wholeSignificand n (Nat.log2 n) % 2 = 0) := by
  obtain ⟨digits, zeros, few, size⟩ := exists_unitsOfMagnitude m
  rw [size]
  rcases on_grid_or_less few zeros (Nat.log2 n) with ⟨k, grid⟩ | less
  · rw [grid]
    exact preferred_wholeSignificand n (Nat.log2 n) k
  · -- The grid has a point between the number and the whole one.
    have between := grid_le pos
    have near := (preferred_wholeSignificand n (Nat.log2 n) hiddenBit).near
    have nearer : Nat.dist (hiddenBit * step (Nat.log2 n)) (n * unitsInOne)
        < Nat.dist (digits * Nat.pow 2 zeros) (n * unitsInOne) := by
      unfold Nat.dist
      omega
    constructor
    · omega
    · intro tie
      omega

/-! ## Whole numbers -/

/-- The magnitude of a whole number that is not beyond the range of the format. -/
theorem magnitudeOfRatio_one_of_lt {n : Nat} (pos : n ≠ 0) (h : Nat.log2 n < 1023) :
    magnitudeOfRatio n 1 = (Nat.log2 n + 1022) * hiddenBit + wholeSignificand n (Nat.log2 n) ∧
      magnitudeOfRatio n 1 < infiniteMagnitude := by
  have most := (wholeSignificand_bounds pos).2
  have field : (Nat.log2 n + 1022) * hiddenBit ≤ 2044 * hiddenBit :=
    Nat.mul_le_mul_right _ (by omega)
  have positive : 0 < hiddenBit := by decide
  have infinite : infiniteMagnitude = 2047 * hiddenBit := rfl
  rw [magnitudeOfRatio_one pos]
  omega

/-- Numbers of one sign are as far apart as their sizes, others as far as these together. -/
theorem distance_eq (x : Binary64) (i : Int) : x.distance i =
    if x.negative = decide (i < 0)
    then Nat.dist (unitsOfMagnitude x.magnitude) (i.natAbs * unitsInOne)
    else unitsOfMagnitude x.magnitude + i.natAbs * unitsInOne := by
  have sign : i * unitsInOne = if i < 0 then -((i.natAbs * unitsInOne : Nat) : Int)
      else (i.natAbs * unitsInOne : Nat) := by
    by_cases neg : i < 0
    · rw [if_pos neg, Int.natCast_mul, Int.ofNat_natAbs_of_nonpos (Int.le_of_lt neg), Int.neg_mul,
        Int.neg_neg]
    · rw [if_neg neg, Int.natCast_mul, Int.natAbs_of_nonneg (Int.not_lt.1 neg)]
  unfold distance Nat.dist
  rw [units_eq, sign]
  generalize i.natAbs * unitsInOne = t
  by_cases neg : i < 0 <;> cases x.negative <;> simp [neg] <;> omega

/-- A number of the other sign is no nearer than the one of the same size and of this sign. -/
theorem dist_le_distance (x : Binary64) (i : Int) :
    Nat.dist (unitsOfMagnitude x.magnitude) (i.natAbs * unitsInOne) ≤ x.distance i := by
  rw [distance_eq]
  unfold Nat.dist
  split <;> omega

/-- Numbers of one size that are equally far from a whole number are one number: of two that differ
in their signs, one is nearer. -/
theorem units_eq_of_distance {x y : Binary64} {i : Int} (h : i ≠ 0)
    (size : unitsOfMagnitude y.magnitude = unitsOfMagnitude x.magnitude)
    (tie : y.distance i = x.distance i) : y.units = x.units := by
  have target : 0 < i.natAbs * unitsInOne :=
    Nat.mul_pos (Nat.pos_of_ne_zero (Int.natAbs_ne_zero.2 h)) unitsInOne_pos
  rw [distance_eq, distance_eq, size] at tie
  rw [units_eq, units_eq, size]
  unfold Nat.dist at tie
  by_cases sign : y.negative = x.negative
  · rw [sign]
  · have zero : unitsOfMagnitude x.magnitude = 0 := by
      by_cases hx : x.negative = decide (i < 0)
      · have hy : ¬y.negative = decide (i < 0) := fun hy => sign (hy.trans hx.symm)
        rw [if_pos hx, if_neg hy] at tie
        omega
      · have hy : y.negative = decide (i < 0) := by
          by_contra hy
          exact sign ((Bool.eq_not_iff.2 hy).trans (Bool.eq_not_iff.2 hx).symm)
        rw [if_neg hx, if_pos hy] at tie
        omega
    rw [zero]
    simp

/-- The significand of a rounded integer has the parity that `wholeSignificand` chose, also where
rounding carried into the exponent. -/
theorem significand_ofInt {i : Int} (h : i ≠ 0) (small : Nat.log2 i.natAbs < 1023) :
    (ofInt i).significand % 2 = wholeSignificand i.natAbs (Nat.log2 i.natAbs) % 2 := by
  have pos : i.natAbs ≠ 0 := Int.natAbs_ne_zero.2 h
  have magnitude := (magnitudeOfRatio_one_of_lt pos small).1
  have bound := magnitudeOfRatio_lt i.natAbs 1
  unfold ofInt ofRatio
  rw [if_neg pos]
  rw [magnitude] at bound ⊢
  exact significand_field (wholeSignificand_bounds pos).1 bound _

/-- The size of a rounded whole number. -/
theorem unitsOfMagnitude_ofInt {i : Int} (h : i ≠ 0) (small : Nat.log2 i.natAbs < 1023) :
    unitsOfMagnitude (ofInt i).magnitude
      = wholeSignificand i.natAbs (Nat.log2 i.natAbs) * step (Nat.log2 i.natAbs) := by
  have pos : i.natAbs ≠ 0 := Int.natAbs_ne_zero.2 h
  obtain ⟨least, most⟩ := wholeSignificand_bounds pos
  rw [magnitude_ofInt h, (magnitudeOfRatio_one_of_lt pos small).1]
  exact unitsOfMagnitude_field least most _

theorem nearest_ofInt_zero : (ofInt 0).Nearest 0 := by
  have origin (x : Binary64) : x.distance 0 = x.units.natAbs := by
    rw [distance, Int.zero_mul, Int.sub_zero]
  have zero : (ofInt 0).units = 0 := rfl
  refine ⟨rfl, fun y _ => ?_, fun y _ tie other => absurd ?_ other⟩
  · rw [origin, zero]
    exact Nat.zero_le _
  · rw [origin, origin, zero] at tie
    rw [zero]
    exact Int.natAbs_eq_zero.1 tie

/-- **Rounding a whole number gives the nearest number.** -/
theorem nearest_ofInt {i : Int} (h : Nat.log2 i.natAbs < 1023) : (ofInt i).Nearest i := by
  by_cases zero : i = 0
  · rw [zero]
    exact nearest_ofInt_zero
  · have pos : i.natAbs ≠ 0 := Int.natAbs_ne_zero.2 zero
    have finite := (magnitudeOfRatio_one_of_lt pos h).2
    have size := unitsOfMagnitude_ofInt zero h
    have own : (ofInt i).distance i
        = Nat.dist (unitsOfMagnitude (ofInt i).magnitude) (i.natAbs * unitsInOne) := by
      rw [distance_eq, if_pos (negative_ofInt i)]
    refine ⟨?finite, fun y _ => ?near, fun y _ tie other => ?even⟩
    case finite =>
      rw [isFinite, magnitude_ofInt zero]
      exact decide_eq_true finite
    case near =>
      rw [own, size]
      exact Nat.le_trans (preferred_significand pos y.magnitude).near (dist_le_distance y i)
    case even =>
      have preferred := preferred_significand pos y.magnitude
      rw [significand_ofInt zero h]
      apply preferred.even
      · have := dist_le_distance y i
        rw [tie, own, size] at this
        exact Nat.le_antisymm this preferred.near
      · rw [← size]
        exact fun same => other (units_eq_of_distance zero same tie)

/-- Whole numbers of 64 bits are in the range of the format. -/
theorem nearest_ofInt_of_lt {i : Int} (h : i.natAbs < Nat.pow 2 64) : (ofInt i).Nearest i := by
  apply nearest_ofInt
  by_cases zero : i.natAbs = 0
  · rw [zero]
    decide
  · have : Nat.log2 i.natAbs < 64 := (Nat.log2_lt zero).2 h
    omega

end Conform.Binary64
