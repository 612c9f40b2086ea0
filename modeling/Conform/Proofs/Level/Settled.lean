import Conform.Proofs.Attempt
import Conform.Proofs.Level.Account

/-!
# Settled levels

What is known of the accepted pairs of a level that came out well: each of them is what some pair or
default contributed, no default was passed over but for a name that is there, and no mandatory name
is missing. A level whose pairs contribute one pair each, and in which this holds, settles to these.
-/

namespace Conform.Account

variable {step : Key × Term → Except ParseError Pairs}

/-- What was gathered is what was there and what the pairs contribute. -/
theorem eq_of_gather {pairs taken out : Pairs} (h : gather step taken pairs = .ok out) :
    out = taken ++ contributions step pairs := by
  rcases all_or_first step pairs with all | ⟨before, p, after, e, rfl, ok, hp⟩
  · rw [gather_of_succeeds all] at h
    exact (Except.ok.inj h).symm
  · rw [gather_of_first ok hp] at h
    cases h

/-- What the defaults add, and that each of them has its name there or was dispatched. -/
theorem filled_of_fill {defaults taken out : Pairs} (h : fill step taken defaults = .ok out) :
    ∃ new, out = taken ++ new ∧
      (∀ q ∈ new, ∃ d ∈ defaults, ∃ part, step d = .ok part ∧ q ∈ part) ∧
      ∀ d ∈ defaults, named out d.1 = true ∨ ∃ part, step d = .ok part ∧ ∀ q ∈ part, q ∈ out := by
  induction defaults generalizing taken with
  | nil =>
    cases h
    exact ⟨[], (List.append_nil _).symm, List.forall_mem_nil _, List.forall_mem_nil _⟩
  | cons d ds ih =>
    rw [fill] at h
    split at h
    · rename_i has
      obtain ⟨new, rfl, source, filled⟩ := ih h
      refine ⟨new, rfl, fun q hq => ?_, List.forall_mem_cons.2 ⟨.inl ?_, filled⟩⟩
      · obtain ⟨d', hd', part⟩ := source q hq
        exact ⟨d', List.mem_cons_of_mem _ hd', part⟩
      · rw [named_append, has, Bool.true_or]
    · cases hd : step d with
      | error e => rw [hd] at h; cases h
      | ok part =>
        rw [hd] at h
        obtain ⟨new, rfl, source, filled⟩ := ih h
        refine ⟨part ++ new, List.append_assoc _ _ _, fun q hq => ?_,
          List.forall_mem_cons.2 ⟨.inr ⟨part, hd, fun q hq => by simp [hq]⟩, filled⟩⟩
        rcases List.mem_append.1 hq with hq | hq
        · exact ⟨d, List.mem_cons_self, part, hd, hq⟩
        · obtain ⟨d', hd', part'⟩ := source q hq
          exact ⟨d', List.mem_cons_of_mem _ hd', part'⟩

theorem named_of_demand {path : Path} {keys : List Key} {taken out : Pairs}
    (h : demand path keys taken = .ok out) : out = taken ∧ ∀ k ∈ keys, named taken k = true := by
  rcases all_or_first_absent taken keys with all | ⟨before, k, after, rfl, present, absent⟩
  · rw [demand_of_all all] at h
    exact ⟨(Except.ok.inj h).symm, all⟩
  · rw [demand_of_first present absent] at h
    cases h

/-- The accepted pairs of a level that came out well. -/
structure Settled (step : Key × Term → Except ParseError Pairs) (defaults : Pairs)
    (mandatory : List Key) (pairs out : Pairs) : Prop where
  source : ∀ q ∈ out, ∃ p ∈ pairs ++ defaults, ∃ part, step p = .ok part ∧ q ∈ part
  filled : ∀ d ∈ defaults, named out d.1 = true ∨ ∃ part, step d = .ok part ∧ ∀ q ∈ part, q ∈ out
  present : ∀ k ∈ mandatory, named out k = true

/-- The inversion of a settlement: how each accepted pair came there, and that the mandatory names
are all named. -/
theorem settled_of_settle {path : Path} {defaults pairs out : Pairs} {mandatory : List Key}
    (h : settle step path defaults mandatory pairs = .ok out) :
    Settled step defaults mandatory pairs out := by
  unfold settle at h
  obtain ⟨first, hg, h⟩ := Attempt.bind_eq_ok.1 h
  obtain ⟨both, hf, h⟩ := Attempt.bind_eq_ok.1 h
  obtain ⟨rfl, present⟩ := named_of_demand h
  obtain ⟨new, rfl, source, filled⟩ := filled_of_fill hf
  refine ⟨fun q hq => ?_, filled, present⟩
  rcases List.mem_append.1 hq with hq | hq
  · rw [eq_of_gather hg] at hq
    obtain ⟨p, hp, part⟩ := mem_contributions hq
    exact ⟨p, List.mem_append_left _ hp, part⟩
  · obtain ⟨d, hd, part⟩ := source q hq
    exact ⟨d, List.mem_append_right _ hd, part⟩

/-- A nested level that is not empty when it is settled was not empty before, and so had its defaults. -/
theorem Settled.defaults_of_out {defaults pairs out : Pairs} {mandatory : List Key}
    (h : Settled step (if pairs.isEmpty then [] else defaults) mandatory pairs out) :
    ∀ d ∈ (if out.isEmpty then [] else defaults), d ∈ if pairs.isEmpty then [] else defaults := by
  intro d hd
  cases out with
  | nil => cases hd
  | cons q qs =>
    obtain ⟨p, hp, -⟩ := h.source q List.mem_cons_self
    cases pairs with
    | nil => cases hp
    | cons => exact hd

/-- Pairs that contribute one pair each. -/
theorem gather_of_each {given out : Key × Term → Key × Term} {pairs : Pairs}
    (h : ∀ q ∈ pairs, step (given q) = .ok [out q]) (taken : Pairs) :
    gather step taken (pairs.map given) = .ok (taken ++ pairs.map out) := by
  induction pairs generalizing taken with
  | nil =>
    rw [List.map_nil, List.map_nil, List.append_nil]
    rfl
  | cons q qs ih =>
    obtain ⟨here, rest⟩ := List.forall_mem_cons.1 h
    rw [List.map_cons, gather, here]
    change gather step (taken ++ [out q]) _ = _
    rw [ih rest, List.append_assoc]
    rfl

/-- Defaults that are named already, or that the step drops, fill nothing in. -/
theorem fill_of_nothing {defaults taken : Pairs}
    (h : ∀ d ∈ defaults, named taken d.1 = true ∨ step d = .ok []) :
    fill step taken defaults = .ok taken := by
  induction defaults with
  | nil => rfl
  | cons d ds ih =>
    obtain ⟨here, rest⟩ := List.forall_mem_cons.1 h
    rw [fill]
    split
    · exact ih rest
    · rename_i has
      rcases here with here | here
      · exact absurd here has
      · rw [here]
        change fill step (taken ++ []) ds = _
        rw [List.append_nil]
        exact ih rest

/-- A level settles to the pairs that its own contribute, one each, if the defaults have nothing to add
and no mandatory name is missing. -/
theorem settle_of_each {path : Path} {defaults pairs : Pairs} {mandatory : List Key}
    {given out : Key × Term → Key × Term} (each : ∀ q ∈ pairs, step (given q) = .ok [out q])
    (filled : ∀ d ∈ defaults, named (pairs.map out) d.1 = true ∨ step d = .ok [])
    (present : ∀ k ∈ mandatory, named (pairs.map out) k = true) :
    settle step path defaults mandatory (pairs.map given) = .ok (pairs.map out) := by
  rw [settle, gather_of_each each, List.nil_append]
  change (fill step (pairs.map out) defaults >>= _) = _
  rw [fill_of_nothing filled]
  exact demand_of_all present path

end Conform.Account
