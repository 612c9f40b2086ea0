import Conform.Proofs.Binary64.Value
import Conform.Proofs.Term.Identity

/-!
# Integers against floats

The order of terms places an integer at the float nearest to it, before the floats that are there. So an
integer and a finite float compare as the numbers they stand for, the integer first if these are equal,
with two exceptions. A float that lies below an integer and is the nearest one to it comes after it; this
happens to integers beyond two to the fifty-third only, where floats are sparser than integers. And minus
zero comes before the integer zero.
-/

namespace Conform.Term

open Binary64

variable {n : Int64} {x : Binary64}

/-- How an integer and a finite float compare as numbers, the integer first if they are equal. -/
def orderValues (n : Int64) (x : Binary64) : Ordering :=
  if x.value < n.toInt then .gt else .lt

/-- A float that lies below an integer and is the nearest one to it. -/
def RoundedDown (n : Int64) (x : Binary64) : Prop :=
  x = ofInt n.toInt ∧ x.value < n.toInt

/-- Every integer of 64 bits is rounded to a nearest double. -/
theorem nearest_integer (n : Int64) : (ofInt n.toInt).Nearest n.toInt := by
  have least := Int64.le_toInt n
  have most := Int64.toInt_lt n
  apply nearest_ofInt_of_lt
  change n.toInt.natAbs < 18446744073709551616
  omega

theorem magnitude_ofInt_eq_zero {i : Int} (h : (ofInt i).magnitude = 0) : i = 0 := by
  by_contra nonzero
  have pos := Int.natAbs_ne_zero.2 nonzero
  have least := (wholeSignificand_bounds pos).1
  have hidden : 0 < hiddenBit := by decide
  have infinite : 0 < infiniteMagnitude := by decide
  rw [magnitude_ofInt nonzero, magnitudeOfRatio_one pos] at h
  omega

theorem eq_zero_of_magnitude (h : x.magnitude = 0) : x = zero true ∨ x = zero false := by
  rw [← ofMagnitude_self x, h]
  cases x.negative
  · exact .inr rfl
  · exact .inl rfl

/-- An integer is compared with a float as its nearest double, and comes first on a tie. -/
theorem order_integer_float (n : Int64) (x : Binary64) :
    order (.integer n) (.float x) = (compare (ofInt n.toInt).rank x.rank).then .lt := by
  rw [order]
  rfl

/-- A float at the place of the nearest one is the nearest one, or one of them is minus zero. -/
theorem eq_nearest_of_units (h : x.units = (ofInt n.toInt).units) :
    x = ofInt n.toInt ∨ x = zero true ∧ n = 0 := by
  rcases rank_eq_of_units_eq h with place | ⟨mine, nearest⟩
  · exact .inl (eq_of_rank place)
  · have whole := magnitude_ofInt_eq_zero nearest
    rcases eq_zero_of_magnitude mine with rfl | rfl
    · exact .inr ⟨rfl, Int64.toInt_inj.1 whole⟩
    · left
      rw [whole]
      rfl

/-- An integer comes before the nearest float. -/
theorem order_nearest (n : Int64) : order (.integer n) (.float (ofInt n.toInt)) = .lt := by
  rw [order_integer_float, Int.compare_eq_eq.2 rfl]
  rfl

/-- Where neither exception applies, numbers compare by their values. -/
theorem order_eq_orderValues (finite : x.isFinite = true) (other : x ≠ ofInt n.toInt)
    (positive : ¬(x = zero true ∧ n = 0)) : order (.integer n) (.float x) = orderValues n x := by
  have near := nearest_integer n
  have apart : x.units ≠ (ofInt n.toInt).units := fun same =>
    (eq_nearest_of_units same).elim other positive
  rw [order_integer_float, orderValues]
  by_cases below : x.value < n.toInt
  · have less := near.units_le finite (Int.le_of_lt (value_lt_iff.1 below))
    have place := rank_lt_of_units_lt (lt_of_le_of_ne less apart)
    rw [if_pos below, Int.compare_eq_gt.2 place]
    rfl
  · have more := near.le_units finite (not_lt.1 fun h => below (value_lt_iff.2 h))
    have place := rank_lt_of_units_lt (lt_of_le_of_ne more apart.symm)
    rw [if_neg below, Int.compare_eq_lt.2 place]
    rfl

/-- The integer zero is rounded to the positive zero, so it comes behind the negative one. -/
theorem order_zero_minusZero : order (.integer 0) (.float (zero true)) = .gt := by
  rw [order_integer_float]
  decide

/-- **Integers and floats compare as numbers, but for rounding and minus zero.** An integer stands at the
float nearest to it and is equal to none. It compares with a finite float as the numbers do, the integer
first if they are equal, if and only if the float is not at once the nearest one and below, nor minus zero
against zero. Up to two to the fifty-third no float lies below an integer that it is nearest to. A float
against an integer is always the reverse. -/
theorem numbers_compare_unless_rounded (n : Int64) {x : Binary64} (finite : x.isFinite = true) :
    (ofInt n.toInt).Nearest n.toInt ∧ order (.integer n) (.float x) ≠ .eq ∧
    (order (.integer n) (.float x) = orderValues n x ↔
      ¬RoundedDown n x ∧ ¬(x = zero true ∧ n = 0)) ∧
    (n.toInt.natAbs ≤ Nat.pow 2 53 → ¬RoundedDown n x) ∧
    order (.float x) (.integer n) = (order (.integer n) (.float x)).swap := by
  refine ⟨nearest_integer n, ?_, ⟨fun agree => ⟨?_, ?_⟩, ?_⟩, ?_, order_swap _ _⟩
  · rw [order_integer_float]
    cases compare (ofInt n.toInt).rank x.rank <;> decide
  · rintro ⟨rfl, below⟩
    rw [orderValues, if_pos below, order_nearest] at agree
    cases agree
  · rintro ⟨rfl, rfl⟩
    have level : ¬(zero true).value < (0 : Int64).toInt := by
      rw [value_lt_iff, show (0 : Int64).toInt = 0 from rfl, Int.zero_mul]
      decide
    rw [orderValues, if_neg level, order_zero_minusZero] at agree
    cases agree
  · rintro ⟨unrounded, positive⟩
    by_cases nearest : x = ofInt n.toInt
    · have notBelow : ¬x.value < n.toInt := fun below => unrounded ⟨nearest, below⟩
      rw [orderValues, if_neg notBelow, nearest, order_nearest]
    · exact order_eq_orderValues finite nearest positive
  · rintro small ⟨rfl, below⟩
    rw [value_ofInt small] at below
    exact lt_irrefl _ below

/-- The greatest integer, against the power of two after it, to which it is rounded up. -/
theorem numbers_compare_unless_rounded_greatest :
    let n : Int64 := 9223372036854775807
    let x : Binary64 := ⟨0x43E0000000000000⟩
    x.isFinite = true ∧ ¬RoundedDown n x ∧ orderValues n x = .lt ∧
      order (.integer n) (.float x) = orderValues n x ∧
      order (.float x) (.integer n) = (order (.integer n) (.float x)).swap := by
  intro n x
  have finite : x.isFinite = true := by decide
  have after : ¬x.value < n.toInt := by
    rw [value_lt_iff]
    decide +kernel
  have unrounded : ¬RoundedDown n x := fun down => after down.2
  obtain ⟨-, -, agrees, -, reverse⟩ := numbers_compare_unless_rounded n finite
  exact ⟨finite, unrounded, if_neg after, agrees.2 ⟨unrounded, by decide⟩, reverse⟩

/-- One more than two to the fifty-third comes before two to the fifty-third, which is less. -/
theorem order_forgets_last_bit :
    let n : Int64 := 9007199254740993
    let x : Binary64 := ⟨0x4340000000000000⟩
    x.isFinite = true ∧ x.value = 9007199254740992 ∧ orderValues n x = .gt ∧
      order (.integer n) (.float x) = .lt ∧ order (.float x) (.integer n) = .gt := by
  intro n x
  have value : x.value = ((9007199254740992 : Int) : ℚ) := value_eq_iff.2 (by decide +kernel)
  have below : x.value < n.toInt := value_lt_iff.2 (by decide +kernel)
  exact ⟨by decide, value, if_pos below, by decide +kernel, by decide +kernel⟩

end Conform.Term
