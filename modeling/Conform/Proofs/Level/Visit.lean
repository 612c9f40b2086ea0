import Conform.Proofs.Level.Equations
import Conform.Proofs.Run.Turn

/-!
# Levels that a call comes to

Where a call gets to: the items of a list and the alternatives of a choice, each when its turn comes; the
pairs and the defaults of a level; and, from a field, the levels within it. A run through a level that
fails does so at a field whose turn has come, or because a mandatory key is missing.
-/

namespace Conform

/-! ## Items and alternatives -/

namespace Dispatch

/-- An item passes: it is accepted or dropped. -/
def ItemPasses (dispatch : Term → Run Found) (j : Journal) (t : Term) (j' : Journal) : Prop :=
  ∃ found, dispatch t j = (.ok found, j') ∧ ∀ pairs, found ≠ .replaceAll pairs

/-- Items fail at one of them: with its error, or because it would replace the level. -/
theorem turn_of_items {path : Path} {dispatch : Term → Run Found} {ts : List Term} {j k : Journal}
    {e : ParseError} (h : items path dispatch ts j = (.error e, k)) :
    e = .invalid path .bulkReplacement ∨
      ∃ t j', Turn (ItemPasses dispatch) ts j t j' ∧ dispatch t j' = (.error e, k) := by
  induction ts generalizing j with
  | nil => cases h
  | cons t ts ih =>
    have later {j₁ : Journal} (passes : ItemPasses dispatch j t j₁)
        (h : items path dispatch ts j₁ = (.error e, k)) : e = .invalid path .bulkReplacement ∨
          ∃ u j', Turn (ItemPasses dispatch) (t :: ts) j u j' ∧ dispatch u j' = (.error e, k) := by
      rcases ih h with bulk | ⟨u, j', turn, failed⟩
      · exact .inl bulk
      · exact .inr ⟨u, j', .tail passes turn, failed⟩
    rcases Run.error_of_bind h with failed | ⟨found, j₁, first, rest⟩
    · exact .inr ⟨t, j, .head t ts j, failed⟩
    · cases found with
      | accept key value flattened unknown =>
        rcases Run.error_of_bind rest with failed | ⟨_, _, _, ⟨⟩⟩
        exact later ⟨_, first, fun _ same => nomatch same⟩ failed
      | drop => exact later ⟨_, first, fun _ same => nomatch same⟩ rest
      | replaceAll pairs =>
        cases rest
        exact .inl rfl

/-- Items that all pass do so one by one. -/
theorem itemPasses_of_turn {path : Path} {dispatch : Term → Run Found} {ts : List Term} {t : Term}
    {j j' k : Journal} {taken : List Term × List (Path × Term) × List Path}
    (turn : Turn (ItemPasses dispatch) ts j t j') (ran : items path dispatch ts j = (.ok taken, k)) :
    ∃ k', ItemPasses dispatch j' t k' := by
  induction turn generalizing taken k with
  | head t ts j =>
    obtain ⟨found, j₁, first, rest⟩ := Run.bind_eq_ok.1 ran
    refine ⟨j₁, found, first, ?_⟩
    rintro pairs rfl
    cases rest
  | tail pass _ ih =>
    obtain ⟨found, first, single⟩ := pass
    rw [items, Run.bind_of_ok first] at ran
    cases found with
    | accept =>
      obtain ⟨_, _, rest, _⟩ := Run.bind_eq_ok.1 ran
      exact ih rest
    | drop => exact ih ran
    | replaceAll pairs => exact (single pairs rfl).elim

end Dispatch

/-- An alternative passes: it fails for the data. -/
def Rule.AlternativePasses (key : Key) (value : Term) (l : Level) (j : Journal) (r : Rule)
    (j' : Journal) : Prop :=
  ∃ e, r.dispatch key value l j = (.error e, j') ∧ e.isData = true

/-- Alternatives fail because none is left, or at one of them with an error that is not about the
data. -/
theorem Rule.turn_of_firstOf {count : Nat} {key : Key} {value : Term} {l : Level} {rules : List Rule}
    {j k : Journal} {e : ParseError}
    (h : Dispatch.firstOf count (rules.map dispatch) key value l j = (.error e, k)) :
    e = .invalid (l.path.child key) (.noAlternative value.kind count) ∨
      ∃ r ∈ rules, ∃ j', Turn (AlternativePasses key value l) rules j r j' ∧
        r.dispatch key value l j' = (.error e, k) ∧ e.isData = false := by
  induction rules generalizing j with
  | nil =>
    cases h
    exact .inl rfl
  | cons r rules ih =>
    rw [List.map_cons] at h
    rcases hr : r.dispatch key value l j with ⟨e' | found, j₁⟩
    · rw [Dispatch.firstOf_of_error hr] at h
      split at h
      · rename_i data
        rcases ih h with none | ⟨r', mem, j', turn, failed⟩
        · exact .inl none
        · exact .inr ⟨r', List.mem_cons_of_mem _ mem, j', .tail ⟨e', hr, data⟩ turn, failed⟩
      · rename_i data
        cases h
        exact .inr ⟨r, List.mem_cons_self, j, .head r rules j, hr, eq_false_of_ne_true data⟩
    · rw [Dispatch.firstOf_of_ok hr] at h
      cases h

/-- The alternative whose turn comes and that takes the value decides. -/
theorem Rule.firstOf_of_turn {count : Nat} {key : Key} {value : Term} {l : Level} {rules : List Rule}
    {r : Rule} {j j' k : Journal} {found : Found} (turn : Turn (AlternativePasses key value l) rules j r j')
    (taken : r.dispatch key value l j' = (.ok found, k)) :
    Dispatch.firstOf count (rules.map dispatch) key value l j = (.ok found, k) := by
  induction turn with
  | head r rules j =>
    rw [List.map_cons]
    exact Dispatch.firstOf_of_ok taken count _
  | tail pass _ ih =>
    obtain ⟨e, failed, data⟩ := pass
    rw [List.map_cons, Dispatch.firstOf_of_error failed, if_pos data]
    exact ih taken

/-- Alternatives that all pass, each when its turn comes, leave none. -/
theorem Rule.firstOf_of_passes {count : Nat} {key : Key} {value : Term} {l : Level} {rules : List Rule}
    {j : Journal}
    (h : ∀ r j', Turn (AlternativePasses key value l) rules j r j' →
      ∃ k, AlternativePasses key value l j' r k) :
    (Dispatch.firstOf count (rules.map dispatch) key value l j).1
      = .error (.invalid (l.path.child key) (.noAlternative value.kind count)) := by
  induction rules generalizing j with
  | nil => rfl
  | cons r rules ih =>
    obtain ⟨j₁, e, failed, data⟩ := h r j (.head r rules j)
    rw [List.map_cons, Dispatch.firstOf_of_error failed, if_pos data]
    exact ih fun r' j' turn => h r' j' (.tail ⟨e, failed, data⟩ turn)

/-! ## Levels -/

/-- A level that a call comes to: its schema, the pairs that it is given, whether it gets defaults, and
where and when that is. -/
structure Visit where
  schema : Schema
  pairs : Pairs
  fill : Bool
  path : Path
  options : Options
  journal : Journal

namespace Visit

variable (v : Visit)

def table : List (Key × Dispatch) :=
  Rule.dispatchFields v.schema.fields

def defaults : Pairs :=
  if v.fill then v.schema.defaults else []

/-- The level before its first pair. -/
def start : Level :=
  .start v.path v.options

def run : Except ParseError Level × Journal :=
  Level.run v.table v.schema.defaults v.schema.mandatoryKeys v.fill v.pairs v.start v.journal

/-- The turn of a pair or of a default comes, in this state; of a default only if its name has not been
accepted. -/
inductive Dispatches : Key × Term → Level → Journal → Prop where
  | pair {p : Key × Term} {l : Level} {j : Journal} :
    Turn (Run.Passes (Level.process v.table)) v.pairs (v.start, v.journal) p (l, j) →
    Dispatches p l j
  | default {d : Key × Term} {l₁ l : Level} {j₁ j : Journal} :
    v.start.gather v.table v.pairs v.journal = (.ok l₁, j₁) →
    Turn (Run.Passes (Level.processDefault v.table)) v.defaults (l₁, j₁) d (l, j) →
    l.has d.1 = false → Dispatches d l j

/-- The level comes to this state, with all its pairs and defaults taken in. -/
def Fills (l : Level) : Prop :=
  ∃ l₁ j₁ j, v.start.gather v.table v.pairs v.journal = (.ok l₁, j₁) ∧
    v.defaults.foldlM (Level.processDefault v.table) l₁ j₁ = (.ok l, j)

end Visit

/-- Going by this rule, a field leads to a level within it: the value itself, or what an item of the
value or an alternative leads to when its turn has come. `choice` says whether alternatives count. -/
inductive Rule.Enters (choice : Prop) : Rule → Key → Term → Level → Journal → Visit → Prop where
  | nested {s : Schema} {key : Key} {value : Term} {pairs : Pairs} {l : Level} {j : Journal} :
    value.pairs? = some pairs →
    Enters choice (.nested s) key value l j ⟨s, pairs, !pairs.isEmpty, l.path.child key, l.options, j⟩
  | item {d : Discipline} {inner : Rule} {key : Key} {value t : Term} {l : Level} {j j' : Journal}
    {v : Visit} : Turn (Dispatch.ItemPasses fun t => inner.dispatch key t l) (ListRule.elements value) j
      t j' →
    Enters choice inner key t l j' v → Enters choice (.list d inner) key value l j v
  | alternative {rules : List Rule} {r : Rule} {key : Key} {value : Term} {l : Level} {j j' : Journal}
    {v : Visit} : choice → Turn (AlternativePasses key value l) rules j r j' →
    Enters choice r key value l j' v → Enters choice (.oneOf rules) key value l j v

namespace Visit

/-- From the one level these keys lead to the other. -/
inductive Leads (choice : Prop) : Visit → List Key → Visit → Prop where
  | here (v : Visit) : Leads choice v [] v
  | down {v w u : Visit} {p : Key × Term} {l : Level} {j : Journal} {r : Rule} {keys : List Key} :
    v.Dispatches p l j → v.schema.ruleFor? j.session.symbols p.1 = some r →
    r.Enters choice p.1 p.2 l j w → Leads choice w keys u → Leads choice v (p.1 :: keys) u

end Visit

/-- The top level of a call. -/
def Schema.visit (s : Schema) (options : Options) (pairs : Pairs) (j : Journal) : Visit :=
  ⟨s, pairs, true, ⟨options.path⟩, options, j⟩

/-! ### Runs through them -/

namespace Visit

variable {v : Visit} {p : Key × Term} {l : Level} {j k : Journal} {e : ParseError}

/-- A pair is dispatched at a level that has the path and the options of the one the run started at. -/
theorem stays_of_dispatches (h : v.Dispatches p l j) : v.start.Stays l := by
  cases h with
  | pair turn =>
    exact turn.invariant (P := fun s : Level × Journal => v.start.Stays s.1)
      (fun _ _ _ pass stays => stays.trans (Level.stays_process pass)) ⟨rfl, rfl⟩
  | default gathered turn =>
    exact turn.invariant (P := fun s : Level × Journal => v.start.Stays s.1)
      (fun _ _ _ pass stays => stays.trans (Level.stays_processDefault pass))
      (Level.stays_gather gathered)

theorem stays_of_fills (h : v.Fills l) : v.start.Stays l := by
  obtain ⟨l₁, j₁, j, gathered, filled⟩ := h
  exact (Level.stays_gather gathered).trans
    (Level.stays_foldlM (fun _ _ _ _ _ => Level.stays_processDefault) filled)

/-- A step that fails fails in the rule of its key. -/
theorem rule_of_process (h : l.process v.table p j = (.error e, k)) :
    ∃ r, v.schema.ruleFor? j.session.symbols p.1 = some r ∧ r.dispatch p.1 p.2 l j = (.error e, k) := by
  cases hr : v.schema.ruleFor? j.session.symbols p.1 with
  | none =>
    rw [table, Level.process_unruled hr] at h
    cases h
  | some r =>
    rw [table, Level.process_ruled hr] at h
    rcases Run.error_of_bind h with failed | ⟨_, _, _, ⟨⟩⟩
    exact ⟨r, rfl, failed⟩

/-- A run that fails does so at a pair or a default, or because a mandatory key is missing. -/
theorem failure_of_run (h : v.run = (.error e, k)) :
    (∃ p l j r, v.Dispatches p l j ∧ v.schema.ruleFor? j.session.symbols p.1 = some r ∧
      r.dispatch p.1 p.2 l j = (.error e, k)) ∨
    ∃ l, v.Fills l ∧ ∃ key ∈ v.schema.mandatoryKeys, l.has key = false ∧
      e = .missing (l.path.child key) := by
  rw [run, Level.run_eq] at h
  -- the pairs, then the defaults, then the mandatory keys: the first part that fails
  rcases Run.error_of_bind h with failed | ⟨l₁, j₁, gathered, h⟩
  · obtain ⟨p, l, j, turn, failed⟩ := Run.turn_of_foldlM failed
    obtain ⟨r, rule, failed⟩ := rule_of_process failed
    exact .inl ⟨p, l, j, r, .pair turn, rule, failed⟩
  rcases Run.error_of_bind h with failed | ⟨l, j, filled, h⟩
  · obtain ⟨d, l, j, turn, failed⟩ := Run.turn_of_foldlM failed
    by_cases has : l.has d.1 = true
    · rw [Level.processDefault_of_has has] at failed
      cases failed
    · rw [Level.processDefault_of_not_has has] at failed
      obtain ⟨r, rule, failed⟩ := rule_of_process failed
      exact .inl ⟨d, l, j, r, .default gathered turn (eq_false_of_ne_true has), rule, failed⟩
  · refine .inr ⟨l, ⟨l₁, j₁, j, gathered, filled⟩, ?_⟩
    unfold Level.demand at h
    cases missing : v.schema.mandatoryKeys.find? fun key => !l.has key with
    | none =>
      rw [missing] at h
      cases h
    | some key =>
      rw [missing] at h
      cases h
      exact ⟨key, List.mem_of_find?_eq_some missing, by simpa using List.find?_some missing, rfl⟩

end Visit

end Conform
