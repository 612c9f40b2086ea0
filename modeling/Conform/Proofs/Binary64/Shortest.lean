import Conform.Proofs.Binary64.Interval
import Mathlib.Data.Int.Log
import Mathlib.Data.Rat.Floor

/-!
# The shortest decimal reads back

The decimal that a number is printed as lies in the interval of the number. Grids of decimals are tried
one after another, from coarse to fine, and what is taken from a grid lies in the interval. The search
ends: with eighteen digits the grid is finer than the half of a unit, so one of its points lies between
the number and the upper end.

`covers_iff` says that the test of a candidate is exact, `ratio_interval` what it tests against.
-/

namespace Conform.Binary64

variable {x : Binary64} {r : ℚ} {num den : Nat} {s k : Int}

def Decimal.value (d : Decimal) : ℚ :=
  d.digits * 10 ^ d.exponent

/-! ## Where the point is -/

theorem le_of_tenPow_lt {a b : Int} (h : (10 : ℚ) ^ a < 10 ^ b) : a < b :=
  (zpow_lt_zpow_iff_right₀ (by norm_num)).1 h

/-- From a guess that is no farther off than the fuel the search gets to the place of the point. -/
theorem pointPlaceFrom_eq {place : Int} (hd : 0 < den) (least : (10 : ℚ) ^ (place - 1) ≤ ratio (num, den))
    (most : ratio (num, den) < 10 ^ place) {fuel : Nat} (near : (k - place).natAbs ≤ fuel) :
    pointPlaceFrom num den fuel k = place := by
  have reaches (e : Int) :
      (tenfold 1 e).1 * den ≤ num * (tenfold 1 e).2 ↔ (10 : ℚ) ^ e ≤ ratio (num, den) := by
    have cross := ratio_le_ratio_iff (b := (num, den)) (tenfold_snd_pos 1 e) hd
    rw [ratio_tenfold, Nat.cast_one, one_mul] at cross
    exact cross.symm
  induction fuel generalizing k with
  | zero =>
    rw [pointPlaceFrom]
    omega
  | succ fuel ih =>
    rw [pointPlaceFrom]
    dsimp only
    split
    · rename_i reached
      have := le_of_tenPow_lt (((reaches k).1 reached).trans_lt most)
      exact ih (by omega)
    · rename_i above
      rw [reaches, not_le] at above
      have notBelow := le_of_tenPow_lt (least.trans_lt above)
      split
      · rename_i below
        have below := lt_of_not_ge fun h => below.not_ge ((reaches (k - 1)).2 h)
        have := le_of_tenPow_lt (least.trans_lt below)
        exact ih (by omega)
      · rename_i reached
        have := le_of_tenPow_lt (((reaches (k - 1)).1 (Nat.le_of_not_lt reached)).trans_lt most)
        omega

/-- The place of the point of a ratio in the range of the format. -/
theorem pointPlace_bounds (hn : 0 < num) (hd : 0 < den) (least : 2 ^ (-1075 : Int) ≤ ratio (num, den))
    (most : ratio (num, den) < 2 ^ (1024 : Int)) :
    (10 : ℚ) ^ (pointPlace num den - 1) ≤ ratio (num, den) := by
  have positive : 0 < ratio (num, den) := lt_of_lt_of_le (by positivity) least
  obtain ⟨binaryLeast, binaryMost⟩ := floorLog2_bounds hn hd
  obtain ⟨place, decimalLeast, decimalMost⟩ : ∃ place : Int,
      (10 : ℚ) ^ (place - 1) ≤ ratio (num, den) ∧ ratio (num, den) < 10 ^ place := by
    refine ⟨Int.log 10 (ratio (num, den)) + 1, ?_, ?_⟩
    · simpa using Int.zpow_log_le_self (b := 10) (by decide) positive
    · simpa using Int.lt_zpow_succ_log_self (b := 10) (by decide) (ratio (num, den))
  -- The binary exponent gives the decimal one up to a few places.
  have lower := lt_of_tenPow_lt_twoPow (decimalLeast.trans_lt binaryMost)
  have upper := lt_of_twoPow_lt_tenPow (binaryLeast.trans_lt decimalMost)
  have floor := (zpow_lt_zpow_iff_right₀ one_lt_two).1 (least.trans_lt binaryMost)
  have ceiling := (zpow_lt_zpow_iff_right₀ one_lt_two).1 (binaryLeast.trans_lt most)
  have found : pointPlace num den = place :=
    pointPlaceFrom_eq hd decimalLeast decimalMost (by omega)
  rw [found]
  exact decimalLeast

/-! ## The ends of the interval -/

theorem interval_snd_pos (x : Binary64) : 0 < (interval x).1.2 ∧ 0 < (interval x).2.1.2 := by
  unfold interval
  dsimp only
  refine ⟨?_, scaled_snd_pos _ _⟩
  split <;> exact scaled_snd_pos _ _

/-- The two ends that the printing compares with are the ends of the interval of the numbers that
round to `x`. -/
theorem ratio_interval (nonzero : x.significand ≠ 0) :
    ratio (interval x).1 = x.lowEnd ∧ ratio (interval x).2.1 = x.highEnd := by
  have some : 1 ≤ x.significand := Nat.one_le_iff_ne_zero.2 nonzero
  have half : (2 : ℚ) ^ (x.exponent - 1) = 2 ^ x.exponent / 2 := zpow_sub_one₀ two_ne_zero _
  have quarter : (2 : ℚ) ^ (x.exponent - 2) = 2 ^ x.exponent / 4 := by
    rw [zpow_sub₀ two_ne_zero]
    norm_num
  unfold interval lowEnd highEnd
  dsimp only
  constructor
  · split
    · rw [ratio_scaled, quarter, Nat.cast_sub (by omega)]
      push_cast
      ring
    · rw [ratio_scaled, half, Nat.cast_sub (by omega)]
      push_cast
      ring
  · rw [ratio_scaled, half]
    push_cast
    ring

/-- The test for the interval, on a ratio. -/
def covers (x : Binary64) (r : Nat × Nat) : Bool :=
  between (interval x).2.2 (interval x).1 (interval x).2.1 r.1 r.2

/-- The test of a candidate is exact: `covers` holds of the decimals that `Rounds` to `x` and of no
other. -/
theorem covers_iff (nonzero : x.significand ≠ 0) {r : Nat × Nat} (hr : 0 < r.2) :
    covers x r = true ↔ x.Rounds (ratio r) := by
  obtain ⟨lowPos, highPos⟩ := interval_snd_pos x
  obtain ⟨low, high⟩ := ratio_interval nonzero
  have inclusive : (interval x).2.2 = (x.significand % 2 == 0) := rfl
  unfold covers between
  rw [inclusive]
  simp only [← ratio_le_ratio_iff lowPos hr, ← ratio_le_ratio_iff hr highPos,
    ← ratio_lt_ratio_iff lowPos hr, ← ratio_lt_ratio_iff hr highPos, low, high]
  split
  · rename_i even
    rw [beq_iff_eq] at even
    simp only [Bool.and_eq_true, decide_eq_true_eq]
    exact ⟨fun h => ⟨h.1, h.2, by omega⟩, fun h => ⟨h.low, h.high⟩⟩
  · rename_i isOdd
    rw [beq_iff_eq] at isOdd
    simp only [Bool.and_eq_true, decide_eq_true_eq]
    exact ⟨fun h => ⟨h.1.le, h.2.le, fun _ => h⟩, fun h => h.odd (by omega)⟩

/-! ## The grids -/

/-- The point of a grid that is not beyond a ratio. -/
def gridBelow (num den : Nat) (s : Int) : Nat :=
  num * (tenfold 1 s).2 / (den * (tenfold 1 s).1)

/-- What a grid gives, by whether the point below a ratio and the next one are in the interval. -/
def chosen (both : Option Nat) (below : Nat) : Bool → Bool → Option Nat
  | true, true => both
  | true, false => some below
  | false, true => some (below + 1)
  | false, false => none

/-- The choice among the two neighbours on a grid of decimals, with the remainder and the divisor
written out. -/
theorem onGrid_eq (x : Binary64) (num den : Nat) (s : Int) :
    onGrid? num den (interval x).1 (interval x).2.1 (interval x).2.2 s =
      chosen (if 2 * (num * (tenfold 1 s).2 % (den * (tenfold 1 s).1)) < den * (tenfold 1 s).1 then
          some (gridBelow num den s)
        else some (gridBelow num den s + 1)) (gridBelow num den s)
        (covers x (tenfold (gridBelow num den s) s)) (covers x (tenfold (gridBelow num den s + 1) s)) :=
  rfl

/-- What is taken from a grid is in the interval. -/
theorem Rounds.of_onGrid (nonzero : x.significand ≠ 0) {d : Nat}
    (h : onGrid? num den (interval x).1 (interval x).2.1 (interval x).2.2 s = some d) :
    x.Rounds (Decimal.value ⟨d, s⟩) := by
  have hit : covers x (tenfold d s) = true := by
    rw [onGrid_eq] at h
    unfold chosen at h
    split at h
    · rename_i below above
      split at h <;> cases h
      · exact below
      · exact above
    · rename_i below _
      cases h
      exact below
    · rename_i _ above
      cases h
      exact above
    · cases h
  rw [covers_iff nonzero (tenfold_snd_pos d s), ratio_tenfold] at hit
  exact hit

/-- The point of a grid that follows a ratio. -/
theorem next_bounds (num : Nat) (hd : 0 < den) (s : Int) :
    ratio (num, den) < (gridBelow num den s + 1 : Nat) * 10 ^ s ∧
      (gridBelow num den s + 1 : Nat) * 10 ^ s ≤ ratio (num, den) + 10 ^ s := by
  generalize next : gridBelow num den s + 1 = above
  unfold gridBelow at next
  have step : (10 : ℚ) ^ s = ratio (tenfold 1 s) := by rw [ratio_tenfold, Nat.cast_one, one_mul]
  have ten := tenfold_fst_pos Nat.one_pos s
  have one := tenfold_snd_pos 1 s
  rw [step]
  generalize tenfold 1 s = unit at next ten one
  have divisor : 0 < den * unit.1 := Nat.mul_pos hd ten
  have least : (above - 1) * (den * unit.1) ≤ num * unit.2 := by
    rw [← next, Nat.add_sub_cancel]
    exact Nat.div_mul_le_self _ _
  have most : num * unit.2 < above * (den * unit.1) := by
    rw [← next]
    exact Nat.lt_mul_of_div_lt (Nat.lt_succ_self _) divisor
  have pos : 1 ≤ above := next ▸ Nat.le_add_left _ _
  have least : ((above : ℚ) - 1) * (den * unit.1) ≤ num * unit.2 := by
    rw [← Nat.cast_one, ← Nat.cast_sub pos]
    exact_mod_cast least
  have most : (num : ℚ) * unit.2 < above * (den * unit.1) := by exact_mod_cast most
  have denPos : (0 : ℚ) < den := Nat.cast_pos.2 hd
  have tenPos : (0 : ℚ) < unit.1 := Nat.cast_pos.2 ten
  have onePos : (0 : ℚ) < unit.2 := Nat.cast_pos.2 one
  unfold ratio
  dsimp only
  constructor
  · rw [mul_div_assoc', div_lt_div_iff₀ denPos onePos]
    linarith
  · rw [← sub_le_iff_le_add, ← sub_one_mul, mul_div_assoc', div_le_div_iff₀ onePos denPos]
    linarith

/-- A number is not an end of its interval. -/
theorem number_between_ends (x : Binary64) :
    x.lowEnd < x.significand * 2 ^ x.exponent ∧ x.significand * 2 ^ x.exponent < x.highEnd := by
  have unit : (0 : ℚ) < 2 ^ x.exponent := by positivity
  unfold lowEnd highEnd
  constructor <;> apply mul_lt_mul_of_pos_right _ unit
  · split <;> linarith
  · linarith

theorem Rounds.of_between (low : x.lowEnd < r) (high : r < x.highEnd) : x.Rounds r :=
  ⟨low.le, high.le, fun _ => ⟨low, high⟩⟩

/-- A grid that is finer than half a unit has a point in the interval. -/
theorem exists_onGrid (nonzero : x.significand ≠ 0) (hd : 0 < den)
    (number : ratio (num, den) = x.significand * 2 ^ x.exponent)
    (fine : (10 : ℚ) ^ s < 2 ^ (x.exponent - 1)) :
    ∃ d, onGrid? num den (interval x).1 (interval x).2.1 (interval x).2.2 s = some d := by
  obtain ⟨low, high⟩ := number_between_ends x
  have half : x.highEnd = x.significand * 2 ^ x.exponent + 2 ^ (x.exponent - 1) := by
    rw [highEnd, zpow_sub_one₀ two_ne_zero]
    ring
  have hit : covers x (tenfold (gridBelow num den s + 1) s) = true := by
    obtain ⟨after, near⟩ := next_bounds num hd s
    rw [number] at after near
    rw [covers_iff nonzero (tenfold_snd_pos _ s), ratio_tenfold]
    exact .of_between (low.trans after) (by linarith)
  rw [onGrid_eq, hit]
  cases covers x (tenfold (gridBelow num den s) s) with
  | false => exact ⟨_, rfl⟩
  | true =>
    rw [chosen]
    split <;> exact ⟨_, rfl⟩

/-! ## The search -/

/-- What every grid gives has a property, so the decimal that is found has it. -/
theorem shortestFrom_of_onGrid {low high : Nat × Nat} {inclusive : Bool} {P : Decimal → Prop}
    (each : ∀ s d, onGrid? num den low high inclusive s = some d → P ⟨d, s⟩) {fuel i n : Nat}
    (enough : i < fuel) (found : ∃ d, onGrid? num den low high inclusive (k - (n + i : Nat)) = some d) :
    P (shortestFrom num den low high inclusive k fuel n) := by
  induction fuel generalizing i n with
  | zero => exact absurd enough (Nat.not_lt_zero i)
  | succ fuel ih =>
    rw [shortestFrom]
    split
    · rename_i d hit
      exact each _ d hit
    · rename_i miss
      cases i with
      | zero =>
        obtain ⟨d, hit⟩ := found
        rw [Nat.add_zero, miss] at hit
        cases hit
      | succ i =>
        rw [Nat.add_succ, ← Nat.succ_add] at found
        exact ih (Nat.lt_of_succ_lt_succ enough) found

/-- Zeros at the end of the digits only move. -/
theorem value_strip (fuel : Nat) (d : Decimal) : (d.strip fuel).value = d.value := by
  induction fuel generalizing d with
  | zero => rfl
  | succ fuel ih =>
    rw [Decimal.strip]
    split
    · rename_i zero
      have whole : d.digits = d.digits / 10 * 10 := by omega
      have cast : (d.digits : ℚ) = (d.digits / 10 : Nat) * 10 := by exact_mod_cast whole
      rw [ih, Decimal.value, Decimal.value, cast, zpow_add_one₀ (by norm_num)]
      ring
    · rfl

theorem significand_ne_zero (h : x.isZero = false) : x.significand ≠ 0 := by
  have pos : 0 < hiddenBit := by decide
  have nonzero : x.magnitude ≠ 0 := ne_of_beq_false h
  unfold significand
  split <;> omega

/-- **The shortest decimal of a finite number that is not zero rounds to the number.** -/
theorem rounds_shortest (finite : x.isFinite = true) (h : x.isZero = false) :
    x.Rounds x.shortest.value := by
  have nonzero := significand_ne_zero h
  have number : ratio ((scaled x.significand x.exponent).1, (scaled x.significand x.exponent).2) = _ :=
    ratio_scaled x.significand x.exponent
  have numPos : 0 < (scaled x.significand x.exponent).1 := by
    unfold scaled
    split
    · exact Nat.mul_pos (Nat.pos_of_ne_zero nonzero) (Nat.two_pow_pos _)
    · exact Nat.pos_of_ne_zero nonzero
  have denPos := scaled_snd_pos x.significand x.exponent
  have own : x.Rounds (x.significand * 2 ^ x.exponent) :=
    .of_between (number_between_ends x).1 (number_between_ends x).2
  unfold shortest
  rw [h, if_neg Bool.false_ne_true]
  dsimp only
  rw [value_strip]
  generalize (scaled x.significand x.exponent).1 = num at number numPos ⊢
  generalize (scaled x.significand x.exponent).2 = den at number denPos ⊢
  refine shortestFrom_of_onGrid (P := fun d => x.Rounds d.value) (fun s d => .of_onGrid nonzero)
    (show 17 < 20 by decide) (exists_onGrid nonzero denPos number ?_)
  -- Eighteen digits are finer than half a unit, as a number has fewer units than two to the
  -- fifty-third.
  have place := pointPlace_bounds numPos denPos (number ▸ own.least_le nonzero)
    (number ▸ own.lt_most finite)
  generalize pointPlace num den = k at place ⊢
  rw [number] at place
  have step : (10 : ℚ) ^ (k - 1) = 10 ^ (k - (1 + 17 : Nat)) * 10 ^ 17 := by
    rw [← zpow_natCast, ← zpow_add₀ (by norm_num)]
    congr 1
    push_cast
    ring
  have units : (2 : ℚ) ^ (x.exponent + 53) = 2 ^ (x.exponent - 1) * 2 ^ 54 := by
    rw [← zpow_natCast, ← zpow_add₀ two_ne_zero]
    congr 1
    push_cast
    ring
  have few : (10 : ℚ) ^ (k - (1 + 17 : Nat)) * 10 ^ 17 < 2 ^ (x.exponent - 1) * 10 ^ 17 := by
    calc (10 : ℚ) ^ (k - (1 + 17 : Nat)) * 10 ^ 17
      _ < 2 ^ (x.exponent - 1) * 2 ^ 54 := step ▸ units ▸ place.trans_lt own.lt
      _ ≤ 2 ^ (x.exponent - 1) * 10 ^ 17 := by gcongr; norm_num
  exact lt_of_mul_lt_mul_right few (by positivity)

end Conform.Binary64
