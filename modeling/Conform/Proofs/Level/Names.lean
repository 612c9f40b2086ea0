import Conform.Proofs.Level.Found
import Conform.Proofs.Level.Steady
import Conform.Proofs.Term.Lookup

/-!
# How often a name is accepted

Where no callback renames a field or puts other pairs in place of the accepted ones, each pair brings
in its own name or none, and a default comes in only where its name has not. So a level accepts a name
at most as often as its pairs bear it, or once if none does. The steps of a level are followed by the
number of accepted pairs that bear one name.

`countNamed_of_gather` follows that number through the pairs, `countNamed_of_fill` through the
defaults.
-/

namespace Conform

/-- A callback that leaves the field under its key and the other fields alone. It may look at the
level, create symbols and functions, and fail. -/
def Callback.Keeping (c : Callback) : Prop :=
  ∀ key value level session v, (c.apply key value level session).1 = some v → v.Plain

/-- A schema that leaves its fields to such callbacks only. What the callbacks of nested schemas and
of lists do stays within the field. -/
def Schema.KeepsNames (s : Schema) : Prop :=
  ∀ f ∈ s.fields, ∀ c, Rule.Asks c f.2 → c.Keeping

/-- A dispatcher that takes a field under its key or drops it. -/
def Dispatch.Keeping (d : Dispatch) : Prop :=
  ∀ key value l j found, (d key value l j).1 = .ok found → found.Keeps key

theorem Dispatch.keeping_callback {c : Callback} (h : c.Keeping) : (callback c).Keeping := by
  intro key value l j found hf
  obtain ⟨v, hv, hf⟩ := exists_of_callback hf
  exact keeps_ofVerdict (h key value l j.session v hv) hf

theorem Rule.keeping_dispatch {r : Rule} (h : ∀ c, Asks c r → c.Keeping) : r.dispatch.Keeping := by
  intro key value l j found hf
  exact found_of_dispatch (fun _ _ _ _ => .accept _ _ _) (fun _ => .drop)
    (fun c hc => Dispatch.keeping_callback (h c hc)) hf

namespace Level

/-- A table of dispatchers that take a field under its key or drop it. -/
def KeepingTable (table : List (Key × Dispatch)) : Prop :=
  ∀ entry ∈ table, entry.2.Keeping

variable {table : List (Key × Dispatch)} {l l' : Level} {j j' : Journal}

/-- One step: a pair brings in its own name or none. -/
theorem countNamed_of_process (keeping : KeepingTable table) {p : Key × Term}
    (h : l.process table p j = (.ok l', j')) (name : String) :
    countNamed l'.accepted name ≤ countNamed l.accepted name + countNamed [p] name := by
  cases processed_of_process h with
  | noted => exact Nat.le_add_right _ _
  | taken mem found =>
    cases keeping _ mem p.1 p.2 l j _ found with
    | accept value => exact Nat.le_of_eq (countNamed_append _ [(p.1, value)] name)
    | drop => exact Nat.le_add_right _ _

/-- A gathering fold accepts a name no more often than the input has it. -/
theorem countNamed_of_gather (keeping : KeepingTable table) {pairs : Pairs}
    (h : pairs.foldlM (process table) l j = (.ok l', j')) (name : String) :
    countNamed l'.accepted name ≤ countNamed l.accepted name + countNamed pairs name := by
  induction pairs generalizing l j with
  | nil =>
    cases h
    exact Nat.le_add_right _ _
  | cons p ps ih =>
    rw [List.foldlM_cons] at h
    obtain ⟨l₁, j₁, first, rest⟩ := Run.bind_eq_ok.1 h
    have here := countNamed_of_process keeping first name
    have there := ih rest
    rw [countNamed_cons]
    omega

/-- One step: a default brings in its name where it is missing, so never for the second time. -/
theorem countNamed_of_processDefault (keeping : KeepingTable table) {d : Key × Term}
    (h : l.processDefault table d j = (.ok l', j')) (name : String) :
    countNamed l'.accepted name ≤ max 1 (countNamed l.accepted name) := by
  by_cases has : l.has d.1 = true
  · rw [processDefault_of_has has] at h
    cases h
    exact Nat.le_max_right _ _
  · rw [processDefault_of_not_has has] at h
    have step := countNamed_of_process keeping h name
    by_cases own : d.1.name = name
    · have absent : countNamed l.accepted name = 0 := by
        rw [countNamed_eq_zero_iff]
        intro p hp same
        exact has (List.any_eq_true.2 ⟨p, hp, by simp [Key.sameName, same, own]⟩)
      have once := countNamed_singleton_le d name
      omega
    · have other : countNamed [d] name = 0 := by
        rw [countNamed_eq_zero_iff]
        exact List.forall_mem_singleton.2 own
      omega

/-- Filling in defaults adds a name at most once, and only where nothing has it. -/
theorem countNamed_of_fill (keeping : KeepingTable table) {defaults : Pairs}
    (h : defaults.foldlM (processDefault table) l j = (.ok l', j')) (name : String) :
    countNamed l'.accepted name ≤ max 1 (countNamed l.accepted name) := by
  induction defaults generalizing l j with
  | nil =>
    cases h
    exact Nat.le_max_right _ _
  | cons d ds ih =>
    rw [List.foldlM_cons] at h
    obtain ⟨l₁, j₁, first, rest⟩ := Run.bind_eq_ok.1 h
    have here := countNamed_of_processDefault keeping first name
    have there := ih rest
    omega

/-- The whole run: a name is accepted as often as the pairs bear it at most, or once. -/
theorem countNamed_of_run (keeping : KeepingTable table) {defaults : Pairs} {mandatory : List Key}
    {applied : Bool} {pairs : Pairs} (start : l.accepted = [])
    (h : run table defaults mandatory applied pairs l j = (.ok l', j')) (name : String) :
    countNamed l'.accepted name ≤ max 1 (countNamed pairs name) := by
  obtain ⟨l₁, j₁, gathered, h⟩ := Run.bind_eq_ok.1 h
  obtain ⟨l₂, j₂, filled, demanded⟩ := Run.bind_eq_ok.1 h
  have first := countNamed_of_gather keeping gathered name
  have second := countNamed_of_fill keeping filled name
  have last : l' = l₂ := eq_of_demand demanded
  have none : countNamed l.accepted name = 0 := by
    rw [start]
    rfl
  rw [last]
  omega

end Level

namespace Schema

variable {s : Schema}

theorem keepingTable (keeps : s.KeepsNames) :
    Level.KeepingTable (Rule.dispatchFields s.fields) :=
  Rule.forall_mem_dispatchFields fun f hf => Rule.keeping_dispatch (keeps f hf)

/-- For a whole parse: a name that the input has once or never is accepted at most once. -/
theorem countNamed_of_parse (keeps : s.KeepsNames) {options : Options} {input : Term} {pairs : Pairs}
    (hp : input.pairs? = some pairs) {j j' : Journal} {out : Output}
    (h : s.parse options input j = (.ok out, j')) (name : String) :
    countNamed out.accepted name ≤ max 1 (countNamed pairs name) := by
  rw [parse_of_pairs hp] at h
  obtain ⟨level, j₁, run, h⟩ := Run.bind_eq_ok.1 h
  cases h
  exact Level.countNamed_of_run (keepingTable keeps) rfl run name

end Schema

end Conform
