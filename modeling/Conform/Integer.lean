/-!
# Integers of 64 bits

An integer fits into 64 bits if it is not below the least and not above the greatest of them.
-/

namespace Conform

def leastInt64 : Int := -9223372036854775808

def greatestInt64 : Int := 9223372036854775807

/-- The same integer in 64 bits, if it fits: the checked conversion to `i64`. -/
def toInt64? (i : Int) : Option Int64 :=
  if leastInt64 ≤ i ∧ i ≤ greatestInt64 then some (Int64.ofInt i) else none

/-- The checked cast succeeds exactly for an `Int` that is the value of some `Int64`. -/
theorem toInt64?_eq_some_iff {i : Int} {j : Int64} : toInt64? i = some j ↔ j.toInt = i := by
  unfold toInt64? leastInt64 greatestInt64
  constructor
  · intro h
    split at h
    · obtain rfl := Option.some.inj h
      exact Int64.toInt_ofInt_of_le (by omega) (by omega)
    · simp at h
  · rintro rfl
    have least := Int64.le_toInt j
    have greatest := Int64.toInt_lt j
    rw [if_pos (by omega), Int64.ofInt_toInt]

end Conform
