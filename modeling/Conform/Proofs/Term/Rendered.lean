import Conform.Proofs.Json.Members
import Conform.Proofs.Term.Lookup
import Conform.Term.Json

/-!
# Maps as objects

A map may bear a name more than once, under symbols and under texts, and an object may not. Looking a
name up in the map finds its first value; the object that the map is written as has the last one in its
place. So the two views show the same names, and the same value where a name is borne once.
-/

namespace Conform.Term

theorem pairsToJson_eq_map (pairs : Pairs) :
    pairsToJson pairs = pairs.map fun p => (p.1.name, p.2.toJson) := by
  induction pairs with
  | nil => rfl
  | cons p ps ih => rw [pairsToJson, ih, List.map_cons]

/-- The members of a map before they are gathered: a name has its first value. -/
theorem get?_pairsToJson (pairs : Pairs) (name : String) :
    (Json.object (pairsToJson pairs)).get? name = (lookup pairs name).map toJson := by
  simp only [Json.get?, lookup, pairsToJson_eq_map, List.find?_map, Option.map_map]
  rfl

/-- In the object a name has its last value. -/
theorem get?_toJson_map (pairs : Pairs) (name : String) :
    (map pairs).toJson.get? name = (lookup pairs.reverse name).map toJson := by
  have turned : (pairsToJson pairs).reverse = pairsToJson pairs.reverse := by
    rw [pairsToJson_eq_map, pairsToJson_eq_map, List.map_reverse]
  rw [toJson, Json.get?_gather, turned, get?_pairsToJson]

theorem lookup_reverse_eq_none_iff {pairs : Pairs} {name : String} :
    lookup pairs.reverse name = none ↔ lookup pairs name = none := by
  simp [lookup]

/-- **A map is looked up from the front and written from the back.** The object has the names of the
map, each once, and under a name what its last value is written as, while the map answers with the
first. These are the same for a name that the map bears once. -/
theorem written_as_last (pairs : Pairs) (name : String) :
    (map pairs).toJson.get? name = (lookup pairs.reverse name).map toJson ∧
      ((map pairs).toJson.get? name = none ↔ (map pairs).get? name = none) ∧
      (countNamed pairs name ≤ 1 → (map pairs).toJson.get? name = ((map pairs).get? name).map toJson) := by
  have written := get?_toJson_map pairs name
  refine ⟨written, ?_, fun once => ?_⟩
  · rw [written, Option.map_eq_none_iff]
    exact lookup_reverse_eq_none_iff
  · rw [written, lookup_reverse once]
    rfl

/-- A port under a text and under the symbol of that name, and a host. -/
def twoPorts : Pairs :=
  [(.text "port", .integer 80), (.text "host", .string "a"), (.symbol ⟨"port"⟩, .integer 81)]

/-- The host is the same in both views. -/
theorem written_as_last_host :
    countNamed twoPorts "host" ≤ 1 ∧
      (map twoPorts).toJson.get? "host" = ((map twoPorts).get? "host").map toJson :=
  ⟨by decide, (written_as_last twoPorts "host").2.2 (by decide)⟩

/-- The map answers with the first port, the object has the second. -/
theorem written_differs_from_lookup :
    (map twoPorts).get? "port" = some (.integer 80) ∧
      (map twoPorts).toJson.get? "port" ≠ some (toJson (.integer 80)) := by
  refine ⟨rfl, ?_⟩
  have second : (map twoPorts).toJson.get? "port" = some (.integer 81) := rfl
  rw [second]
  simp [toJson]

end Conform.Term
