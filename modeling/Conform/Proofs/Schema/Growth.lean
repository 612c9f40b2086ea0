import Conform.Proofs.Schema.Conformance

/-!
# Growth of the symbol table

Symbols come into being all the time, in other parts of a program and in other calls. A table that has
grown answers as before for the names that it had; names that it did not have may be found now. The
keys of a schema are symbols that exist, so every key still has the rule that it had. Of the tags only
that of symbols asks the table, and it accepts what it finds, so growth turns refusals into acceptance
and never the other way round. An alternative that is accepted now may come before one that was
accepted, and callbacks may do anything with what exists: without these two, a call that succeeded
succeeds again with the same output.

The `lasts_*` lemmas go through the kinds of rules; `validate_of_growsTo` is where the table comes
in.
-/

namespace Conform

/-! ## Lookup -/

/-- The second table has all symbols of the first. -/
def SymbolTable.GrowsTo (t t' : SymbolTable) : Prop :=
  ∀ s ∈ t.symbols, s ∈ t'.symbols

theorem SymbolTable.growsTo_intern (t : SymbolTable) (name : String) : t.GrowsTo (t.intern name) :=
  fun _ hs => mem_intern.2 (.inr hs)

/-- The symbols among the keys exist. -/
def KeysIn {α : Type} (t : SymbolTable) (table : List (Key × α)) : Prop :=
  ∀ entry ∈ table, ∀ s, entry.1 = .symbol s → s ∈ t.symbols

section Growth

variable {t t' : SymbolTable} (grows : t.GrowsTo t')

include grows

/-- A name that exists keeps its symbol when the table grows. -/
theorem existing?_of_growsTo {name : String} {s : Symbol} (h : t.existing? name = some s) :
    t'.existing? name = some s := by
  obtain ⟨rfl, hs⟩ := SymbolTable.existing?_eq_some_iff.1 h
  exact SymbolTable.existing?_eq_some_iff.2 ⟨rfl, grows _ hs⟩

/-- A name finds the same entry, also one that has become a symbol in the meantime: no entry bears
it. -/
theorem valueFor?_of_growsTo {α : Type} {table : List (Key × α)} (known : KeysIn t table) (key : Key) :
    valueFor? t' table key = valueFor? t table key := by
  cases key with
  | symbol s => rfl
  | text name =>
    have same : ((t'.existing? name).bind fun s => valueAt? table (.symbol s))
        = (t.existing? name).bind fun s => valueAt? table (.symbol s) := by
      cases found : t.existing? name with
      | some s => rw [existing?_of_growsTo grows found]
      | none =>
        cases found' : t'.existing? name with
        | none => rfl
        | some s =>
          obtain ⟨rfl, -⟩ := SymbolTable.existing?_eq_some_iff.1 found'
          cases entry : valueAt? table (.symbol ⟨name⟩) with
          | none => exact entry
          | some a =>
            have member := known _ (mem_of_valueAt? entry) ⟨name⟩ rfl
            rw [SymbolTable.existing?_eq_some_iff.2 ⟨rfl, member⟩] at found
            cases found
    simp only [valueFor?, same]

/-- What a tag accepts it goes on accepting. Only `atom` asks for the table, and it asks whether a
symbol exists. -/
theorem validate_of_growsTo {tag : Tag} {raw taken : Term} (h : tag.validate t raw = .ok taken) :
    tag.validate t' raw = .ok taken := by
  by_cases atom : tag = .atom
  · subst atom
    unfold Tag.validate at h ⊢
    dsimp only at h ⊢
    split at h
    · exact h
    · have found := Tag.eq_some_of_demand h
      obtain ⟨name, s, text, existing, rfl⟩ := Tag.exists_of_bind_map found
      rw [text, Option.bind_some, existing?_of_growsTo grows existing]
      rfl
  · cases tag with
    | atom => exact absurd rfl atom
    | _ => exact h

end Growth

/-! ## Runs that last -/

/-- What the run gives under the first table it gives under the second. -/
def Run.Lasts {α : Type} (t t' : SymbolTable) (x : Run α) : Prop :=
  ∀ j j' a, j.session.symbols = t → j'.session.symbols = t' → (x j).1 = .ok a → (x j').1 = .ok a

namespace Run.Lasts

variable {α β : Type} {t t' : SymbolTable}

theorem pure (a : α) : Lasts t t' (Pure.pure a : Run α) :=
  fun _ _ _ _ _ h => h

theorem throw (e : ParseError) : Lasts t t' (MonadExcept.throw e : Run α) :=
  fun _ _ _ _ _ h => nomatch h

/-- Runs that last do so in sequence. The first part has to be quiet, so that the second starts in
the larger table too. -/
theorem bind {x : Run α} {f : α → Run β} (quiet : Quiet x) (hx : Lasts t t' x)
    (hf : ∀ a, Lasts t t' (f a)) : Lasts t t' (x >>= f) := by
  intro j j' b hj hj' h
  obtain ⟨a, k, first, rest⟩ := bind_eq_ok.1 (Prod.ext h rfl)
  have kept : k.session = j.session := by simpa [first] using quiet.session j
  have again : x j' = (.ok a, (x j').2) := Prod.ext (hx j j' a hj hj' (congrArg Prod.fst first)) rfl
  rw [bind_of_ok again]
  refine hf a k _ b ?_ ?_ (congrArg Prod.fst rest)
  · rw [kept, hj]
  · rw [quiet.session j', hj']

theorem foldlM {step : β → α → Run β} (quiet : ∀ b a, Quiet (step b a))
    (h : ∀ b a, Lasts t t' (step b a)) (as : List α) (b : β) : Lasts t t' (as.foldlM step b) := by
  induction as generalizing b with
  | nil => exact .pure b
  | cons a as ih =>
    rw [List.foldlM_cons]
    exact .bind (quiet b a) (h b a) ih

end Run.Lasts

/-- A dispatcher all whose runs last. -/
def Dispatch.Lasts (t t' : SymbolTable) (d : Dispatch) : Prop :=
  ∀ key value l, Run.Lasts t t' (d key value l)

namespace Level

/-- A table whose symbols exist and whose dispatchers create nothing and last. -/
structure LastingTable (t t' : SymbolTable) (table : List (Key × Dispatch)) : Prop where
  steady : SteadyTable table
  known : KeysIn t table
  lasts : ∀ entry ∈ table, entry.2.Lasts t t'

variable {t t' : SymbolTable} {table : List (Key × Dispatch)}

/-- The step lasts: the rule for a key is found by its symbol or its text, and neither changes when
the table grows. -/
theorem lasts_process (grows : t.GrowsTo t') (h : LastingTable t t' table) (l : Level)
    (pair : Key × Term) : Run.Lasts t t' (l.process table pair) := by
  intro j j' l' hj hj' ok
  have same : valueFor? j'.session.symbols table pair.1 = valueFor? j.session.symbols table pair.1 := by
    rw [hj, hj']
    exact valueFor?_of_growsTo grows h.known pair.1
  cases hd : valueFor? j.session.symbols table pair.1 with
  | none =>
    rw [process_of_none hd] at ok
    rw [process_of_none (same.trans hd)]
    exact ok
  | some d =>
    rw [process_of_some hd] at ok
    rw [process_of_some (same.trans hd)]
    obtain ⟨k, -, mem⟩ := mem_of_valueFor? hd
    have quiet := (h.steady _ mem).quiet pair.1 pair.2 l
    exact Run.Lasts.bind quiet (h.lasts _ mem pair.1 pair.2 l) (fun _ => .pure _) j j' l' hj hj' ok

theorem lasts_processDefault (grows : t.GrowsTo t') (h : LastingTable t t' table) (l : Level)
    (pair : Key × Term) : Run.Lasts t t' (l.processDefault table pair) := by
  by_cases has : l.has pair.1 = true
  · rw [processDefault_of_has has]; exact .pure l
  · rw [processDefault_of_not_has has]; exact lasts_process grows h l pair

theorem lasts_demand (l : Level) (keys : List Key) : Run.Lasts t t' (l.demand keys) := by
  unfold demand
  split
  · exact .throw _
  · exact .pure l

/-- The run: pairs, defaults and mandatory names. -/
theorem lasts_run (grows : t.GrowsTo t') (h : LastingTable t t' table) (defaults : Pairs)
    (mandatory : List Key) (fill : Bool) (pairs : Pairs) (l : Level) :
    Run.Lasts t t' (run table defaults mandatory fill pairs l) :=
  .bind (.foldlM (quiet_process h.steady) pairs l)
    (.foldlM (quiet_process h.steady) (lasts_process grows h) pairs l) fun l =>
      .bind (.foldlM (quiet_processDefault h.steady) _ l)
        (.foldlM (quiet_processDefault h.steady) (lasts_processDefault grows h) _ l) fun l =>
          lasts_demand l mandatory

end Level

/-! ## Each kind of rule -/

namespace Dispatch

variable {t t' : SymbolTable}

theorem lasts_type (grows : t.GrowsTo t') (tag : Tag) : Lasts t t' (type tag) := by
  rintro key value l j j' found rfl rfl h
  obtain ⟨taken, valid, rfl⟩ := exists_of_type h
  unfold type
  rw [validate_of_growsTo grows valid]

theorem lasts_items {path : Path} {dispatch : Term → Run Found}
    (quiet : ∀ u, Run.Quiet (dispatch u)) (h : ∀ u, Run.Lasts t t' (dispatch u)) (us : List Term) :
    Run.Lasts t t' (items path dispatch us) := by
  induction us with
  | nil => exact .pure _
  | cons u us ih =>
    refine .bind (quiet u) (h u) fun found => ?_
    cases found with
    | accept => exact .bind (quiet_items quiet us) ih fun _ => .pure _
    | drop => exact ih
    | replaceAll => exact .throw _

theorem lasts_list {d : Discipline} {inner : Dispatch} (steady : inner.Steady)
    (h : inner.Lasts t t') : Lasts t t' (list d inner) := by
  intro key value l
  have quiet (u : Term) := steady.quiet key u l
  exact .bind (quiet_items quiet _) (lasts_items quiet (fun u => h key u l) _) fun _ => .pure _

theorem lasts_nested (grows : t.GrowsTo t') {table : List (Key × Dispatch)}
    (h : Level.LastingTable t t' table) (defaults : Pairs) (mandatory : List Key) :
    Lasts t t' (nested table defaults mandatory) := by
  intro key value l
  cases hp : value.pairs? with
  | none => rw [nested_of_none hp]; exact .throw _
  | some pairs =>
    rw [nested_of_pairs hp]
    exact .bind (Level.quiet_run h.steady _ _ _ _ _) (Level.lasts_run grows h _ _ _ _ _)
      fun _ => .pure _

end Dispatch

namespace Rule

/-- A rule that is neither a choice nor a callback. -/
def Direct : Rule → Prop
  | .oneOf _ | .callback _ => False
  | _ => True

theorem Direct.noCallback {r : Rule} (h : r.Direct) : r.NoCallback := by
  cases r with
  | oneOf | callback => exact h.elim
  | type | list | nested | ignore => trivial

/-- A rule that is no schema, or one whose keys exist. -/
def Known (t : SymbolTable) : Rule → Prop
  | .nested s => KeysIn t s.fields
  | _ => True

variable {t t' : SymbolTable}

theorem lastingTable {s : Schema} (direct : (Rule.nested s).Every Direct)
    (known : KeysIn t s.fields) (lasts : ∀ f ∈ s.fields, f.2.dispatch.Lasts t t') :
    Level.LastingTable t t' (dispatchFields s.fields) where
  steady := Schema.steadyTable (direct.mono fun _ h => h.noCallback.plain)
  known := forall_mem_dispatchFields known
  lasts := forall_mem_dispatchFields lasts

/-- Every direct rule whose keys are known lasts, by induction on the rule. -/
theorem lasts_dispatch (grows : t.GrowsTo t') {r : Rule} (direct : r.Every Direct)
    (known : r.Every (Known t)) : r.dispatch.Lasts t t' := by
  induction r using Rule.induct with
  | type tag => rw [dispatch]; exact Dispatch.lasts_type grows tag
  | list d inner ih =>
    rw [dispatch]
    have steady := steady_dispatch (direct.inner.mono fun _ h => h.noCallback.plain)
    exact Dispatch.lasts_list steady (ih direct.inner known.inner)
  | oneOf rules => exact (direct.here : Direct (.oneOf rules)).elim
  | nested s ih =>
    rw [dispatch, s.dispatch_eq]
    apply Dispatch.lasts_nested grows
    exact lastingTable direct known.here fun f hf => ih f hf (direct.field hf) (known.field hf)
  | callback c => exact (direct.here : Direct (.callback c)).elim
  | ignore => rw [dispatch]; exact fun _ _ _ => .pure _

end Rule

namespace Schema

/-- A whole parse lasts. -/
theorem lasts_parse {t t' : SymbolTable} (grows : t.GrowsTo t') {s : Schema}
    (direct : (Rule.nested s).Every Rule.Direct) (known : (Rule.nested s).Every (Rule.Known t))
    (options : Options) (input : Term) : Run.Lasts t t' (s.parse options input) := by
  have table := Rule.lastingTable direct known.here fun f hf =>
    Rule.lasts_dispatch grows (direct.field hf) (known.field hf)
  cases hp : input.pairs? with
  | none => rw [parse_of_none hp]; exact .throw _
  | some pairs =>
    rw [parse_of_pairs hp]
    exact .bind (Level.quiet_run table.steady _ _ _ _ _) (Level.lasts_run grows table _ _ _ _ _)
      fun _ => .pure _

/-- **Growth of the symbol table changes no result.** For a schema whose keys exist: at every level
each key has the same rule under the grown table, and without choices and callbacks a call that
succeeded gives the same output. -/
theorem results_outlast_growth {t t' : SymbolTable} (grows : t.GrowsTo t') {s : Schema}
    (known : (Rule.nested s).Every (Rule.Known t)) :
    (∀ s' : Schema, Rule.Within (.nested s') (.nested s) →
      ∀ key, s'.ruleFor? t' key = s'.ruleFor? t key) ∧
    ((Rule.nested s).Every Rule.Direct → ∀ options input (j j' : Journal) out,
      j.session.symbols = t → j'.session.symbols = t' →
      (s.parse options input j).1 = .ok out → (s.parse options input j').1 = .ok out) := by
  constructor
  · intro s' within key
    exact valueFor?_of_growsTo grows (known.within within).here key
  · intro direct options input j j' out hj hj' ok
    exact lasts_parse grows direct known options input j j' out hj hj' ok

/-- A proxy: the backend it stands before, and its mode, under a symbol. -/
def proxy : Schema :=
  ⟨[(.symbol ⟨"mode"⟩, .type .atom), (.text "backend", .nested backend)], [], none⟩

/-- A proxy is taken with the mode `fast`; when `slow` has come into being, it still is. -/
theorem results_outlast_growth_proxy :
    let t : SymbolTable := ⟨[⟨"mode"⟩, ⟨"fast"⟩]⟩
    let t' := t.intern "slow"
    let before : Journal := ⟨⟨t, 0⟩, []⟩
    let after : Journal := ⟨⟨t', 0⟩, []⟩
    let given : Term := .map [(.text "mode", .string "fast"),
      (.text "backend", .map [(.text "host", .string "a")])]
    t.GrowsTo t' ∧ (Rule.nested proxy).Every (Rule.Known t) ∧ (Rule.nested proxy).Every Rule.Direct ∧
      proxy.ruleFor? t' (.text "slow") = proxy.ruleFor? t (.text "slow") ∧
      ∃ out, (proxy.parse .default given before).1 = .ok out ∧
        (proxy.parse .default given after).1 = .ok out := by
  intro t t' before after given
  have grows : t.GrowsTo t' := SymbolTable.growsTo_intern t "slow"
  have known : (Rule.nested proxy).Every (Rule.Known t) := by
    simp [proxy, backend, Rule.Known, KeysIn, t]
  have direct : (Rule.nested proxy).Every Rule.Direct := by
    simp [proxy, backend, Rule.Direct]
  have accepted : ∃ out, (proxy.parse .default given before).1 = .ok out := ⟨_, rfl⟩
  obtain ⟨out, ok⟩ := accepted
  have growth := results_outlast_growth grows known
  exact ⟨grows, known, direct, growth.1 proxy (.refl _) (.text "slow"), out, ok,
    growth.2 direct .default given before after out rfl rfl ok⟩

end Schema

end Conform
