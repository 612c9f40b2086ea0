import Conform.Proofs.Level.Equations
import Conform.Proofs.Rule.Depth
import Conform.Proofs.Run

/-!
# Steady dispatchers

A steady dispatcher looks at the field, at the place of the level and at what has been created, and
at nothing that was accepted before; it takes the field under its own key or drops it. Every rule
whose callbacks are plain stands for a steady dispatcher, by induction over rules: a level of steady
fields is itself a quiet run.

The `steady_*` lemmas go through the kinds of rules, `quiet_run` through a level.
-/

namespace Conform

/-! ## Plain callbacks -/

/-- A verdict on the value alone: it neither changes the key nor touches the other fields. -/
def Verdict.Plain : Verdict → Prop
  | .rename _ _ | .replaceAll _ => False
  | _ => True

/-- A callback that is a function of what it sees, creates nothing, does not see the level, and
gives plain verdicts. It may fail. -/
def Callback.Plain : Callback → Prop
  | .value f => ∃ g : Term → Option Verdict,
    (∀ value, f value = pure (g value)) ∧ ∀ value v, g value = some v → v.Plain
  | .keyed f => ∃ g : Key → Term → Option Verdict,
    (∀ key value, f key value = pure (g key value)) ∧ ∀ key value v, g key value = some v → v.Plain
  | .contextual _ => False

/-- A rule that is no callback, or a plain one. -/
def Rule.Plain : Rule → Prop
  | .callback c => c.Plain
  | _ => True

/-! ## Steadiness -/

/-- Two levels with the same path and the same options. -/
def Level.SamePlace (l l' : Level) : Prop :=
  l.path = l'.path ∧ l.options = l'.options

/-- A field taken under a key, or dropped. -/
inductive Found.Keeps (key : Key) : Found → Prop where
  | accept (value : Term) (flattened : List (Path × Term)) (unknown : List Path) :
    Keeps key (.accept key value flattened unknown)
  | drop : Keeps key .drop

/-- A dispatcher that depends on the field and the place only. -/
structure Dispatch.Steady (d : Dispatch) : Prop where
  quiet : ∀ key value l, Run.Quiet (d key value l)
  place : ∀ key value l l', l.SamePlace l' → d key value l = d key value l'
  keeps : ∀ key value l j found, (d key value l j).1 = .ok found → found.Keeps key

namespace Level

/-- A table of steady dispatchers. -/
def SteadyTable (table : List (Key × Dispatch)) : Prop :=
  ∀ entry ∈ table, entry.2.Steady

theorem SteadyTable.found {table : List (Key × Dispatch)} (h : SteadyTable table)
    {symbols : SymbolTable} {key : Key} {d : Dispatch} (hd : valueFor? symbols table key = some d) :
    d.Steady := by
  obtain ⟨k, -, mem⟩ := mem_of_valueFor? hd
  exact h (k, d) mem

theorem quiet_note (l : Level) (key : Key) : Run.Quiet (l.note key) where
  session j := by
    simp only [note]
    split <;> rfl
  answer j j' same := rfl

theorem quiet_demand (l : Level) (keys : List Key) : Run.Quiet (l.demand keys) := by
  unfold demand
  split
  · exact .throw _
  · exact .pure l

variable {table : List (Key × Dispatch)}

/-- The step leaves the session as it was: a callback is the only part of a step that could change
it. -/
theorem quiet_process (h : SteadyTable table) (l : Level) (pair : Key × Term) :
    Run.Quiet (l.process table pair) where
  session j := by
    cases hd : valueFor? j.session.symbols table pair.1 with
    | none => rw [process_of_none hd]; exact (quiet_note l pair.1).session j
    | some d =>
      rw [process_of_some hd]
      exact (((h.found hd).quiet pair.1 pair.2 l).bind fun _ => .pure _).session j
  answer j j' same := by
    cases hd : valueFor? j.session.symbols table pair.1 with
    | none => rw [process_of_none hd, process_of_none (same ▸ hd)]; rfl
    | some d =>
      rw [process_of_some hd, process_of_some (same ▸ hd)]
      exact (((h.found hd).quiet pair.1 pair.2 l).bind fun _ => .pure _).answer j j' same

theorem quiet_processDefault (h : SteadyTable table) (l : Level) (pair : Key × Term) :
    Run.Quiet (l.processDefault table pair) := by
  by_cases has : l.has pair.1 = true
  · rw [processDefault_of_has has]; exact .pure l
  · rw [processDefault_of_not_has has]; exact quiet_process h l pair

/-- A run leaves the session as it was; by `Run.Quiet` it can be moved to any journal of the same
session. -/
theorem quiet_run (h : SteadyTable table) (defaults : Pairs) (mandatory : List Key) (fill : Bool)
    (pairs : Pairs) (l : Level) : Run.Quiet (run table defaults mandatory fill pairs l) :=
  (Run.Quiet.foldlM (quiet_process h) pairs l).bind fun l =>
    (Run.Quiet.foldlM (quiet_processDefault h) _ l).bind fun l => quiet_demand l mandatory

end Level

/-! ## Each kind of rule -/

namespace Dispatch

/-- A type rule asks the session for its symbols and nothing else. -/
theorem steady_type (tag : Tag) : Steady (type tag) where
  quiet key value l := by
    constructor
    · intro j
      unfold type
      split <;> rfl
    · intro j j' same
      unfold type
      rw [← same]
      split <;> rfl
  place key value l l' same := by
    funext j
    simp only [type, same.1]
  keeps key value l j found h := by
    obtain ⟨t, -, rfl⟩ := exists_of_type h
    exact .accept _ _ _

theorem steady_ignore : Steady ignore where
  quiet _ _ _ := .pure _
  place _ _ _ _ _ := rfl
  keeps _ _ _ _ _ h := by
    cases h
    exact .drop

/-- A plain callback answers from the key and the value. -/
theorem verdict_of_plain {c : Callback} (h : c.Plain) :
    ∃ g : Key → Term → Option Verdict,
      (∀ key value l, c.apply key value l = pure (g key value)) ∧
      ∀ key value v, g key value = some v → v.Plain := by
  cases c with
  | value f =>
    obtain ⟨g, hg, plain⟩ := h
    exact ⟨fun _ value => g value, fun _ value _ => hg value, fun _ value => plain value⟩
  | keyed f =>
    obtain ⟨g, hg, plain⟩ := h
    exact ⟨g, fun key value _ => hg key value, plain⟩
  | contextual f => exact h.elim

/-- A plain verdict gives at most the pair itself, under its key. -/
theorem keeps_ofVerdict {path : Path} {key : Key} {value : Term} {v : Verdict} {found : Found}
    (h : v.Plain) (hf : ofVerdict path key value v = .ok found) : found.Keeps key := by
  cases v with
  | accept | replace => cases hf; exact .accept _ _ _
  | rename | replaceAll => exact h.elim
  | reject | error => cases hf

/-- A plain callback answers the same at every level in the same place, so its dispatch does. -/
theorem steady_callback {c : Callback} (h : c.Plain) : Steady (callback c) := by
  obtain ⟨g, hg, plain⟩ := verdict_of_plain h
  have answered {key : Key} {value : Term} {v : Verdict} (hv : g key value = some v) (l : Level)
      (j : Journal) : callback c key value l j = (ofVerdict (l.path.child key) key value v, j) := by
    apply callback_of_some
    rw [hg, hv]
    rfl
  have failed {key : Key} {value : Term} (hv : g key value = none) (l : Level) (j : Journal) :
      callback c key value l j = (.error (.callbackFault (l.path.child key)),
        j.log (.callbackFault (l.path.child key) key)) := by
    apply callback_of_none
    rw [hg, hv]
    rfl
  constructor
  · intro key value l
    cases hv : g key value with
    | some v =>
      constructor
      · intro j
        rw [answered hv]
      · intro j j' _
        rw [answered hv, answered hv]
    | none =>
      constructor
      · intro j
        rw [failed hv]
        rfl
      · intro j j' _
        rw [failed hv, failed hv]
  · intro key value l l' same
    funext j
    cases hv : g key value with
    | some v => rw [answered hv, answered hv, same.1]
    | none => rw [failed hv, failed hv, same.1]
  · intro key value l j found hf
    cases hv : g key value with
    | some v =>
      rw [answered hv] at hf
      exact keeps_ofVerdict (plain key value v hv) hf
    | none =>
      rw [failed hv] at hf
      cases hf

theorem quiet_items {path : Path} {dispatch : Term → Run Found}
    (h : ∀ t, Run.Quiet (dispatch t)) (ts : List Term) : Run.Quiet (items path dispatch ts) := by
  induction ts with
  | nil => exact .pure _
  | cons t ts ih =>
    apply (h t).bind
    intro found
    cases found with
    | accept => exact ih.bind fun _ => .pure _
    | drop => exact ih
    | replaceAll => exact .throw _

theorem steady_list {d : Discipline} {inner : Dispatch} (h : inner.Steady) :
    Steady (list d inner) where
  quiet key value l := (quiet_items (fun t => h.quiet key t l) _).bind fun _ => .pure _
  place key value l l' same := by
    have each : (fun t => inner key t l) = fun t => inner key t l' :=
      funext fun t => h.place key t l l' same
    unfold list
    rw [each, same.1]
  keeps key value l j found hf := by
    obtain ⟨values, flattened, unknown, j', -, rfl⟩ := exists_of_list hf
    exact .accept _ _ _

/-- A given-up alternative leaves warnings behind, but the session as it was. -/
theorem quiet_firstOf {count : Nat} {ds : List Dispatch} {key : Key} {value : Term} {l : Level}
    (h : ∀ d ∈ ds, Run.Quiet (d key value l)) : Run.Quiet (firstOf count ds key value l) := by
  induction ds with
  | nil => exact .throw _
  | cons d ds ih =>
    obtain ⟨first, others⟩ := List.forall_mem_cons.1 h
    replace others := ih others
    constructor
    · intro j
      have kept := first.session j
      rcases hd : d key value l j with ⟨e | f, k⟩ <;> rw [hd] at kept
      · rw [firstOf_of_error hd]
        split
        · exact (others.session k).trans kept
        · exact kept
      · rw [firstOf_of_ok hd]
        exact kept
    · intro j j' same
      have agree := first.answer j j' same
      have kept := first.session j
      have kept' := first.session j'
      rcases hd : d key value l j with ⟨e | f, k⟩ <;>
        rcases hd' : d key value l j' with ⟨e' | f', k'⟩ <;>
        rw [hd] at agree kept <;> rw [hd'] at agree kept' <;> cases agree
      · rw [firstOf_of_error hd, firstOf_of_error hd']
        split
        · exact others.answer k k' (kept.trans (same.trans kept'.symm))
        · rfl
      · rw [firstOf_of_ok hd, firstOf_of_ok hd']

/-- Alternatives are steady together: which one is taken depends on their faults alone. -/
theorem steady_firstOf {count : Nat} {ds : List Dispatch} (h : ∀ d ∈ ds, d.Steady) :
    Steady (firstOf count ds) where
  quiet key value l := quiet_firstOf fun d hd => (h d hd).quiet key value l
  place key value l l' same := by
    funext j
    induction ds generalizing j with
    | nil => simp only [firstOf, same.1]
    | cons d ds ih =>
      obtain ⟨first, others⟩ := List.forall_mem_cons.1 h
      rcases hd : d key value l j with ⟨e | f, k⟩
      · rw [firstOf_of_error hd, firstOf_of_error (first.place key value l l' same ▸ hd), ih others]
      · rw [firstOf_of_ok hd, firstOf_of_ok (first.place key value l l' same ▸ hd)]
  keeps key value l j found hf := by
    obtain ⟨d, hd, j', taken⟩ := exists_of_firstOf hf
    exact (h d hd).keeps key value l j' found taken

/-- A nested level is steady when its table is, by `quiet_run` for the inner run. -/
theorem steady_nested {table : List (Key × Dispatch)} (h : Level.SteadyTable table)
    (defaults : Pairs) (mandatory : List Key) : Steady (nested table defaults mandatory) where
  quiet key value l := by
    cases hp : value.pairs? with
    | none => rw [nested_of_none hp]; exact .throw _
    | some pairs =>
      rw [nested_of_pairs hp]
      exact (Level.quiet_run h _ _ _ _ _).bind fun _ => .pure _
  place key value l l' same := by
    unfold nested
    rw [same.1, same.2]
  keeps key value l j found hf := by
    obtain ⟨inner, rfl⟩ := exists_of_nested hf
    exact .accept _ _ _

end Dispatch

/-- A rule whose callbacks are plain, at every depth, stands for a steady dispatcher. -/
theorem Rule.steady_dispatch {r : Rule} (h : r.Every Plain) : r.dispatch.Steady := by
  induction r using Rule.induct with
  | type tag => rw [dispatch]; exact Dispatch.steady_type tag
  | list d inner ih => rw [dispatch]; exact Dispatch.steady_list (ih h.inner)
  | oneOf rules ih =>
    rw [dispatch, dispatchAll_eq_map]
    apply Dispatch.steady_firstOf
    intro d hd
    obtain ⟨r, hr, rfl⟩ := List.mem_map.1 hd
    exact ih r hr (h.alternative hr)
  | nested s ih =>
    rw [dispatch, s.dispatch_eq]
    apply Dispatch.steady_nested
    exact forall_mem_dispatchFields fun f hf => ih f hf (h.field hf)
  | callback c => rw [dispatch]; exact Dispatch.steady_callback h.here
  | ignore => rw [dispatch]; exact Dispatch.steady_ignore

/-- The dispatchers of a schema's fields are steady if the callbacks in them are plain. -/
theorem Schema.steadyTable {s : Schema} (h : (Rule.nested s).Every Rule.Plain) :
    Level.SteadyTable (Rule.dispatchFields s.fields) :=
  Rule.forall_mem_dispatchFields fun _ hf => Rule.steady_dispatch (h.field hf)

/-- A call of a schema with plain callbacks creates nothing. -/
theorem Schema.quiet_parse {s : Schema} (h : (Rule.nested s).Every Rule.Plain) (options : Options)
    (input : Term) : Run.Quiet (s.parse options input) := by
  cases hp : input.pairs? with
  | none => rw [parse_of_none hp]; exact .throw _
  | some pairs =>
    rw [parse_of_pairs hp]
    exact (Level.quiet_run (steadyTable h) _ _ _ _ _).bind fun _ => .pure _

end Conform
