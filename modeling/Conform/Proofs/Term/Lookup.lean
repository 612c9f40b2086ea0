import Conform.Proofs.Schema.Built

/-!
# Pairs of one name

A map may bear a name more than once. Looked up from the front, the first value of the name is found,
and from the back the last. They are one value where the name is borne once.
-/

namespace Conform

def countNamed (pairs : Pairs) (name : String) : Nat :=
  (pairs.map (·.1.name)).count name

theorem countNamed_append (as bs : Pairs) (name : String) :
    countNamed (as ++ bs) name = countNamed as name + countNamed bs name := by
  simp only [countNamed, List.map_append, List.count_append]

theorem countNamed_cons (p : Key × Term) (ps : Pairs) (name : String) :
    countNamed (p :: ps) name = countNamed [p] name + countNamed ps name :=
  countNamed_append [p] ps name

theorem countNamed_eq_zero_iff {pairs : Pairs} {name : String} :
    countNamed pairs name = 0 ↔ ∀ p ∈ pairs, p.1.name ≠ name := by
  simp [countNamed, List.count_eq_zero]

theorem countNamed_singleton_le (p : Key × Term) (name : String) : countNamed [p] name ≤ 1 :=
  List.count_le_length

theorem countNamed_le_of_distinctNames {pairs : Pairs} (h : DistinctNames pairs) (name : String) :
    countNamed pairs name ≤ 1 := by
  rw [countNamed, List.Nodup.count h]
  split <;> omega

theorem Term.lookup_append (as bs : Pairs) (name : String) :
    lookup (as ++ bs) name = (lookup as name).or (lookup bs name) := by
  simp only [lookup, List.find?_append, Option.map_or]

theorem Term.lookup_eq_none_iff {pairs : Pairs} {name : String} :
    lookup pairs name = none ↔ countNamed pairs name = 0 := by
  simp [lookup, countNamed_eq_zero_iff]

/-- Of one value, the first is the last. -/
theorem Term.lookup_reverse {pairs : Pairs} {name : String} (once : countNamed pairs name ≤ 1) :
    lookup pairs.reverse name = lookup pairs name := by
  induction pairs with
  | nil => rfl
  | cons p ps ih =>
    rw [countNamed_cons] at once
    rw [List.reverse_cons, lookup_append, ih (by omega), ← List.singleton_append (l := ps),
      lookup_append]
    cases first : lookup [p] name with
    | none => simp
    | some value =>
      have here : countNamed [p] name ≠ 0 := fun h => by simp [lookup_eq_none_iff.2 h] at first
      have rest : lookup ps name = none := lookup_eq_none_iff.2 (by omega)
      rw [rest]
      rfl

end Conform
