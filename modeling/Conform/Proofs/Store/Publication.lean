import Std.Data.TreeMap.Lemmas
import Conform.Load

/-!
# Publishing into a store

A store is seen through `get?`, and putting a value changes one slot of that view. Publishing pairs
puts one after another, so a slot of the scope ends with the value of the last pair of its name, and
a slot that no pair names, or that is of another owner or scope, keeps what it had.
-/

namespace Conform.Store

theorem get?_put (s : Store) (a b : Slot) (value : Term) :
    (s.put a value).get? b = if a = b then some value else s.get? b := by
  simp only [put, get?, Std.TreeMap.getElem?_insert, Std.LawfulEqOrd.compare_eq_iff_eq]

variable {owner scope : String}

/-- Publishing pairs is publishing some and then the others. -/
theorem publish_append (as bs : Pairs) (world : Store × Journal) :
    publish owner scope (as ++ bs) world = publish owner scope bs (publish owner scope as world) := by
  induction as generalizing world with
  | nil => rfl
  | cons p as ih => exact ih _

/-- A slot that none of the pairs is published in keeps its value. -/
theorem get?_publish_other {pairs : Pairs} {a : Slot}
    (other : ∀ p ∈ pairs, a ≠ ⟨owner, scope, p.1.name⟩) (world : Store × Journal) :
    (publish owner scope pairs world).1.get? a = world.1.get? a := by
  induction pairs generalizing world with
  | nil => rfl
  | cons p ps ih =>
    obtain ⟨here, rest⟩ := List.forall_mem_cons.1 other
    have kept : (world.1.put ⟨owner, scope, p.1.name⟩ p.2).get? a = world.1.get? a := by
      rw [get?_put, if_neg (Ne.symm here)]
    exact (ih rest _).trans kept

/-- A name's slot holds the value of the last pair of that name. -/
theorem get?_publish_last {before after : Pairs} {p : Key × Term}
    (last : ∀ q ∈ after, q.1.name ≠ p.1.name) (world : Store × Journal) :
    (publish owner scope (before ++ p :: after) world).1.get? ⟨owner, scope, p.1.name⟩
      = some p.2 := by
  have other : ∀ q ∈ after, (⟨owner, scope, p.1.name⟩ : Slot) ≠ ⟨owner, scope, q.1.name⟩ :=
    fun q hq same => last q hq (Slot.mk.inj same).2.2.symm
  rw [publish_append]
  refine (get?_publish_other other _).trans ?_
  rw [record, get?_put, if_pos rfl]

/-- Publishing logs events and creates nothing. -/
theorem session_publish (pairs : Pairs) (world : Store × Journal) :
    (publish owner scope pairs world).2.session = world.2.session := by
  induction pairs generalizing world with
  | nil => rfl
  | cons p ps ih => exact ih _

end Conform.Store
