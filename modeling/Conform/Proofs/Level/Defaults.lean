import Conform.Proofs.Level.Found
import Conform.Proofs.Schema.Built

/-!
# Which defaults are dispatched

A level asks before each default whether its name is among the names accepted so far, under whatever
key the fields were accepted. As long as nothing replaces what was accepted, names only come in, so a
default is dispatched if and only if its name has not come in before its turn. A field that was
accepted under its own name keeps the default of that name out; a field that was renamed does not.
-/

namespace Conform

/-! ## Without bulk replacement -/

/-- A verdict on one field. -/
def Verdict.Single : Verdict → Prop
  | .replaceAll _ => False
  | _ => True

/-- A callback that only gives verdicts on one field. It may look at the level, create symbols and
functions, rename the field, and fail. -/
def Callback.Single (c : Callback) : Prop :=
  ∀ key value level session v, (c.apply key value level session).1 = some v → v.Single

/-- A rule that is no callback, or one that gives verdicts on one field. -/
def Rule.Single : Rule → Prop
  | .callback c => c.Single
  | _ => True

/-- A field that was taken or dropped, with no effect on the others. -/
def Found.Single : Found → Prop
  | .replaceAll _ => False
  | _ => True

/-- A dispatcher that takes or drops single fields. -/
def Dispatch.Single (d : Dispatch) : Prop :=
  ∀ key value l j found, (d key value l j).1 = .ok found → found.Single

theorem Dispatch.single_callback {c : Callback} (h : c.Single) : (callback c).Single := by
  intro key value l j found hf
  obtain ⟨v, hv, hf⟩ := exists_of_callback hf
  have single := h key value l j.session v hv
  cases v with
  | replaceAll => exact single.elim
  | accept | replace | rename => cases hf; trivial
  | reject | error => cases hf

theorem Rule.single_dispatch {r : Rule} (h : r.Every Single) : r.dispatch.Single := by
  intro key value l j found hf
  have asked (c : Callback) (hc : Asks c r) := Dispatch.single_callback (h _ hc.within)
  exact found_of_dispatch (P := fun _ found => found.Single) (fun _ _ _ _ => trivial)
    (fun _ => trivial) asked hf

namespace Level

/-- A table of dispatchers of single fields. -/
def SingleTable (table : List (Key × Dispatch)) : Prop :=
  ∀ entry ∈ table, entry.2.Single

/-! ## Names come in -/

/-- A key of this name has been accepted. -/
def Holds (l : Level) (name : String) : Prop :=
  ∃ q ∈ l.accepted, q.1.name = name

/-- The test that keeps a default out looks only at the names of the accepted keys. -/
theorem has_iff {l : Level} {key : Key} : l.has key = true ↔ l.Holds key.name := by
  simp [has, Holds, Key.sameName]

variable {table : List (Key × Dispatch)} {l l' : Level} {j j' : Journal}

/-- A step with rules that put one pair each only adds to what is accepted. -/
theorem accepted_of_process (single : SingleTable table) {p : Key × Term}
    (h : l.process table p j = (.ok l', j')) : ∀ q ∈ l.accepted, q ∈ l'.accepted := by
  intro q hq
  cases processed_of_process h with
  | noted => exact hq
  | @taken k d found mem hf =>
    have one := single (k, d) mem p.1 p.2 l j found hf
    cases found with
    | accept => exact List.mem_append_left _ hq
    | drop => exact hq
    | replaceAll => exact one.elim

/-- A run of steps only adds to what is accepted, by induction on the pairs. -/
theorem accepted_of_foldlM (single : SingleTable table) {pairs : Pairs}
    (h : pairs.foldlM (process table) l j = (.ok l', j')) : ∀ q ∈ l.accepted, q ∈ l'.accepted := by
  induction pairs generalizing l j with
  | nil => cases h; exact fun q hq => hq
  | cons p ps ih =>
    rw [List.foldlM_cons] at h
    obtain ⟨l₁, j₁, first, rest⟩ := Run.bind_eq_ok.1 h
    exact fun q hq => ih rest q (accepted_of_process single first q hq)

/-- In the run through these pairs, this one of them is accepted under this key when it is its turn. -/
inductive AcceptedAs (table : List (Key × Dispatch)) (p : Key × Term) (k : Key) :
    Pairs → Level → Journal → Prop where
  | here {rest : Pairs} {l : Level} {j j' : Journal} {d : Dispatch} {value : Term}
    {flattened : List (Path × Term)} {unknown : List Path} :
    valueFor? j.session.symbols table p.1 = some d →
    d p.1 p.2 l j = (.ok (.accept k value flattened unknown), j') →
    AcceptedAs table p k (p :: rest) l j
  | later {q : Key × Term} {rest : Pairs} {l l' : Level} {j j' : Journal} :
    l.process table q j = (.ok l', j') → AcceptedAs table p k rest l' j' →
    AcceptedAs table p k (q :: rest) l j

/-- A key under which a pair was accepted is still there when the fold has ended. -/
theorem holds_of_acceptedAs (single : SingleTable table) {p : Key × Term} {k : Key} {pairs : Pairs}
    (accepted : AcceptedAs table p k pairs l j)
    (h : pairs.foldlM (process table) l j = (.ok l', j')) : l'.Holds k.name := by
  induction accepted with
  | here hd hk =>
    rw [List.foldlM_cons] at h
    obtain ⟨l₁, j₁, first, rest⟩ := Run.bind_eq_ok.1 h
    rw [process_of_some hd, Run.bind_of_ok hk] at first
    cases first
    refine ⟨_, accepted_of_foldlM single rest _ (List.mem_append_right _ List.mem_cons_self), rfl⟩
  | later hq _ ih =>
    rw [List.foldlM_cons, Run.bind_of_ok hq] at h
    exact ih h

/-! ## The defaults that are dispatched -/

/-- The defaults that are dispatched, from the state that the level's pairs leave. -/
def dispatched (table : List (Key × Dispatch)) : Pairs → Level → Journal → Pairs
  | [], _, _ => []
  | d :: ds, l, j =>
    if l.has d.1 then dispatched table ds l j
    else d :: match l.process table d j with
      | (.ok l', j') => dispatched table ds l' j'
      | (.error _, _) => []

theorem dispatched_of_has {d : Key × Term} (h : l.has d.1 = true) (ds : Pairs) (j : Journal) :
    dispatched table (d :: ds) l j = dispatched table ds l j := by
  rw [dispatched, if_pos h]

theorem dispatched_of_not_has {d : Key × Term} (h : ¬l.has d.1 = true) (ds : Pairs) (j : Journal) :
    dispatched table (d :: ds) l j = d :: match l.process table d j with
      | (.ok l', j') => dispatched table ds l' j'
      | (.error _, _) => [] := by
  rw [dispatched, if_neg h]

/-- Applying the defaults is dispatching these, one after another. -/
theorem foldlM_processDefault (defaults : Pairs) (l : Level) (j : Journal) :
    defaults.foldlM (processDefault table) l j
      = (dispatched table defaults l j).foldlM (process table) l j := by
  induction defaults generalizing l j with
  | nil => rfl
  | cons d ds ih =>
    rw [List.foldlM_cons]
    by_cases has : l.has d.1 = true
    · rw [processDefault_of_has has, dispatched_of_has has]
      exact ih l j
    · rw [processDefault_of_not_has has, dispatched_of_not_has has, List.foldlM_cons]
      rcases hp : l.process table d j with ⟨e | l', j'⟩
      · rw [Run.bind_of_error hp, Run.bind_of_error hp]
      · rw [Run.bind_of_ok hp, Run.bind_of_ok hp]
        exact ih l' j'

theorem mem_of_mem_dispatched {d : Key × Term} {defaults : Pairs}
    (h : d ∈ dispatched table defaults l j) : d ∈ defaults := by
  induction defaults generalizing l j with
  | nil => cases h
  | cons c cs ih =>
    by_cases has : l.has c.1 = true
    · rw [dispatched_of_has has] at h
      exact List.mem_cons_of_mem _ (ih h)
    · rw [dispatched_of_not_has has] at h
      rcases List.mem_cons.1 h with rfl | h
      · exact List.mem_cons_self
      · split at h
        · exact List.mem_cons_of_mem _ (ih h)
        · cases h

/-- A default is dispatched if and only if its name has not come in before its turn. -/
theorem mem_dispatched_iff {before after : Pairs} {d : Key × Term}
    (distinct : DistinctNames (before ++ d :: after))
    (turn : before.foldlM (processDefault table) l j = (.ok l', j')) :
    d ∈ dispatched table (before ++ d :: after) l j ↔ ¬l'.Holds d.1.name := by
  rw [← has_iff]
  induction before generalizing l j with
  | nil =>
    cases turn
    by_cases has : l'.has d.1 = true
    · rw [List.nil_append, dispatched_of_has has]
      constructor
      · intro mem
        have fresh := (List.nodup_cons.1 distinct).1
        exact absurd (List.mem_map_of_mem (mem_of_mem_dispatched mem)) fresh
      · intro absent
        exact absurd has absent
    · rw [List.nil_append, dispatched_of_not_has has]
      constructor
      · intro _
        exact has
      · intro _
        exact List.mem_cons_self
  | cons b bs ih =>
    obtain ⟨fresh, distinct⟩ := List.nodup_cons.1 distinct
    have other : d ≠ b := by
      rintro rfl
      exact fresh (by simp)
    rw [List.foldlM_cons] at turn
    rw [List.cons_append]
    by_cases has : l.has b.1 = true
    · rw [processDefault_of_has has] at turn
      rw [dispatched_of_has has]
      exact ih distinct turn
    · rw [processDefault_of_not_has has] at turn
      obtain ⟨l₁, j₁, first, rest⟩ := Run.bind_eq_ok.1 turn
      rw [dispatched_of_not_has has, first, List.mem_cons]
      dsimp only
      rw [ih distinct rest]
      exact or_iff_right other

/-- A name that has come in keeps its default out. -/
theorem not_mem_dispatched (single : SingleTable table) {d : Key × Term} (h : l.Holds d.1.name)
    (defaults : Pairs) : d ∉ dispatched table defaults l j := by
  induction defaults generalizing l j with
  | nil => exact List.not_mem_nil
  | cons c cs ih =>
    by_cases has : l.has c.1 = true
    · rw [dispatched_of_has has]
      exact ih h
    · rw [dispatched_of_not_has has, List.mem_cons]
      rintro (rfl | mem)
      · exact has (has_iff.2 h)
      · split at mem
        · rename_i hp
          obtain ⟨q, hq, name⟩ := h
          exact ih ⟨q, accepted_of_process single hp q hq, name⟩ mem
        · cases mem

/-- The other defaults do not notice that it is missing. -/
theorem foldlM_without (single : SingleTable table) {name : String} (h : l.Holds name)
    (defaults : Pairs) : defaults.foldlM (processDefault table) l j
      = (defaults.filter fun d => d.1.name != name).foldlM (processDefault table) l j := by
  induction defaults generalizing l j with
  | nil => rfl
  | cons d ds ih =>
    rw [List.foldlM_cons]
    by_cases same : d.1.name = name
    · have has : l.has d.1 = true := has_iff.2 (same ▸ h)
      have out : (d :: ds).filter (fun d => d.1.name != name)
          = ds.filter fun d => d.1.name != name := List.filter_cons_of_neg (by simp [same])
      rw [processDefault_of_has has, out]
      exact ih h
    · have kept : (d :: ds).filter (fun d => d.1.name != name)
          = d :: ds.filter fun d => d.1.name != name := List.filter_cons_of_pos (by simp [same])
      rw [kept, List.foldlM_cons]
      rcases hp : l.processDefault table d j with ⟨e | l', j'⟩
      · rw [Run.bind_of_error hp, Run.bind_of_error hp]
      · rw [Run.bind_of_ok hp, Run.bind_of_ok hp]
        refine ih ?_
        by_cases has : l.has d.1 = true
        · rw [processDefault_of_has has] at hp
          cases hp
          exact h
        · rw [processDefault_of_not_has has] at hp
          obtain ⟨q, hq, name⟩ := h
          exact ⟨q, accepted_of_process single hp q hq, name⟩

/-- A level in which a field was accepted under a name is the level without the default of that
name. -/
theorem run_without (single : SingleTable table) {p : Key × Term} {k : Key} {pairs : Pairs}
    (accepted : AcceptedAs table p k pairs l j) (defaults : Pairs) (mandatory : List Key)
    (fill : Bool) : run table defaults mandatory fill pairs l j
      = run table (defaults.filter fun d => d.1.name != k.name) mandatory fill pairs l j := by
  unfold run
  rcases hp : pairs.foldlM (process table) l j with ⟨e | l₁, j₁⟩
  · rw [Run.bind_of_error hp, Run.bind_of_error hp]
  · rw [Run.bind_of_ok hp, Run.bind_of_ok hp]
    cases fill with
    | false => rfl
    | true =>
      rw [if_pos rfl, if_pos rfl, Run.bind_apply, Run.bind_apply,
        foldlM_without single (holds_of_acceptedAs single accepted hp)]

end Level

end Conform
