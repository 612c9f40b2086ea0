import Std.Data.TreeMap

/-!
# Slots of the store

A value is kept in a slot: it belongs to an owner and to a part of what is his, its scope, and has a
key there. Slots are ordered by owner, then by scope, then by key, so that the values of one scope
stand together, in the order of their keys.

This is `StoreKey`.
-/

namespace Conform

/-- Where a value is kept: `StoreKey`. -/
structure Slot where
  owner : String
  scope : String
  key : String
deriving DecidableEq

namespace Slot

/-- The three parts with slashes between them, as a `StoreKey` is shown. -/
def text (a : Slot) : String :=
  a.owner ++ "/" ++ a.scope ++ "/" ++ a.key

def order : Slot → Slot → Ordering :=
  compareLex (compareOn owner) (compareLex (compareOn scope) (compareOn key))

instance : Ord Slot := ⟨order⟩

instance : Std.TransOrd Slot :=
  inferInstanceAs (Std.TransCmp
    (compareLex (compareOn owner) (compareLex (compareOn scope) (compareOn key))))

instance : Std.LawfulEqOrd Slot where
  eq_of_compare {a b} h := by
    cases a
    cases b
    change order _ _ = .eq at h
    simp only [order, compareLex, compareOn, Ordering.then_eq_eq] at h
    obtain ⟨h₁, h₂, h₃⟩ := h
    rw [Std.LawfulEqOrd.eq_of_compare h₁, Std.LawfulEqOrd.eq_of_compare h₂,
      Std.LawfulEqOrd.eq_of_compare h₃]

end Slot

end Conform
