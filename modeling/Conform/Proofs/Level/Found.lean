import Conform.Proofs.Level.Equations
import Conform.Proofs.Rule.Depth

/-!
# What a rule makes of a field

Tags, lists and nested schemas take a field under its own key, and an ignored field is dropped. Only
a callback can do anything else with a field: rename it, or put other pairs in place of all that was
accepted. So what holds of these two ends, and of whatever the callbacks of a rule give, holds of
whatever the rule gives.
-/

namespace Conform

/-- A property of what a rule finds, by the rules: it holds of one pair, of nothing, and of what the
callbacks in the rule answer, so it holds of every `Found`. -/
theorem Rule.found_of_dispatch {P : Key → Found → Prop}
    (taken : ∀ key value flattened unknown, P key (.accept key value flattened unknown))
    (dropped : ∀ key, P key .drop) {r : Rule}
    (asked : ∀ c, Asks c r → ∀ key value l j found,
      (Dispatch.callback c key value l j).1 = .ok found → P key found)
    {key : Key} {value : Term} {l : Level} {j : Journal} {found : Found}
    (h : (r.dispatch key value l j).1 = .ok found) : P key found := by
  induction r using Rule.induct generalizing j found with
  | type tag =>
    rw [dispatch] at h
    obtain ⟨t, -, rfl⟩ := Dispatch.exists_of_type h
    exact taken key t [] []
  | list d inner =>
    rw [dispatch] at h
    obtain ⟨_, _, _, _, -, rfl⟩ := Dispatch.exists_of_list h
    exact taken _ _ _ _
  | oneOf rules ih =>
    rw [dispatch, dispatchAll_eq_map] at h
    obtain ⟨d, hd, j', h⟩ := Dispatch.exists_of_firstOf h
    obtain ⟨r, hr, rfl⟩ := List.mem_map.1 hd
    exact ih r hr (fun c hc => asked c (.alternative hr hc)) h
  | nested s =>
    rw [dispatch, s.dispatch_eq] at h
    obtain ⟨inner, rfl⟩ := Dispatch.exists_of_nested h
    exact taken _ _ _ _
  | callback c =>
    rw [dispatch] at h
    exact asked c .here key value l j found h
  | ignore =>
    rw [dispatch] at h
    cases h
    exact dropped key

end Conform
