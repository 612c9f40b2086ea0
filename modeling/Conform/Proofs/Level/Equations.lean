import Conform.Level.Parse
import Conform.Proofs.Run
import Conform.Proofs.Schema.Lookup

/-!
# Equations of a level's steps

Each step of a level by the case it is in: a key with or without a rule, a default whose name has
been accepted or not, a value with or without pairs. And what has become of a field that was taken,
by the kind of its rule.

`processed_of_process` is the inversion of `Level.process`, from which everything that a step keeps
is proved.
-/

namespace Conform

namespace Level

variable {table : List (Key × Dispatch)} {l : Level} {pair : Key × Term} {j : Journal}

/-- A key without a rule is only noted. -/
theorem process_of_none (h : valueFor? j.session.symbols table pair.1 = none) :
    l.process table pair j = l.note pair.1 j := by
  simp only [process, h]

/-- A key with a rule is dispatched, and the level takes what the dispatch found. -/
theorem process_of_some {d : Dispatch} (h : valueFor? j.session.symbols table pair.1 = some d) :
    l.process table pair j = (d pair.1 pair.2 l >>= fun found => pure (l.take found)) j := by
  simp only [process, h]

section Ruled

variable {s : Schema}

/-- A key without a rule is noted. -/
theorem process_unruled (h : s.ruleFor? j.session.symbols pair.1 = none) :
    l.process (Rule.dispatchFields s.fields) pair j = l.note pair.1 j :=
  process_of_none (by rw [Rule.valueFor?_dispatchFields, h, Option.map_none])

/-- A key with a rule is dispatched by it. -/
theorem process_ruled {r : Rule} (h : s.ruleFor? j.session.symbols pair.1 = some r) :
    l.process (Rule.dispatchFields s.fields) pair j
      = (r.dispatch pair.1 pair.2 l >>= fun found => pure (l.take found)) j :=
  process_of_some (by rw [Rule.valueFor?_dispatchFields, h, Option.map_some])

end Ruled

/-- The end of one step: the key of the pair is noted as unknown, or what a dispatcher of the table
found is taken in. -/
inductive Processed (table : List (Key × Dispatch)) (l : Level) (pair : Key × Term) (j : Journal) :
    Level → Prop where
  | noted : Processed table l pair j { l with unknown := l.unknown ++ [l.path.child pair.1] }
  | taken {key : Key} {d : Dispatch} {found : Found} : (key, d) ∈ table →
    (d pair.1 pair.2 l j).1 = .ok found → Processed table l pair j (l.take found)

/-- The inversion of a step: it noted the key, or it took what the rule of the key found. Every
invariant of `run` is proved from it. -/
theorem processed_of_process {l' : Level} {j' : Journal}
    (h : l.process table pair j = (.ok l', j')) : Processed table l pair j l' := by
  cases hd : valueFor? j.session.symbols table pair.1 with
  | none =>
    rw [process_of_none hd] at h
    cases h
    exact .noted
  | some d =>
    obtain ⟨key, -, mem⟩ := mem_of_valueFor? hd
    rw [process_of_some hd] at h
    obtain ⟨found, j₁, hf, h⟩ := Run.bind_eq_ok.1 h
    cases h
    exact .taken mem (congrArg Prod.fst hf)

/-- A default whose name is among the accepted ones does nothing. -/
theorem processDefault_of_has (h : l.has pair.1 = true) :
    l.processDefault table pair = pure l :=
  if_pos h

theorem processDefault_of_not_has (h : ¬l.has pair.1 = true) :
    l.processDefault table pair = l.process table pair :=
  if_neg h

/-- Asking for the mandatory keys changes nothing. -/
theorem eq_of_demand {keys : List Key} {l' : Level} {j' : Journal}
    (h : l.demand keys j = (.ok l', j')) : l' = l := by
  unfold demand at h
  cases missing : keys.find? (fun k => !l.has k) <;> rw [missing] at h <;> cases h
  rfl

/-! ### Where a level stands -/

/-- The second level stands where the first one does, and has the same options. -/
structure Stays (l l' : Level) : Prop where
  path : l'.path = l.path
  options : l'.options = l.options

theorem Stays.trans {l l' l'' : Level} (h : l.Stays l') (h' : l'.Stays l'') : l.Stays l'' :=
  ⟨h'.path.trans h.path, h'.options.trans h.options⟩

theorem stays_take (l : Level) (found : Found) : l.Stays (l.take found) := by
  cases found <;> exact ⟨rfl, rfl⟩

/-- A step leaves the path and the options of a level alone. -/
theorem stays_process {l' : Level} {j' : Journal} (h : l.process table pair j = (.ok l', j')) :
    l.Stays l' := by
  cases processed_of_process h with
  | noted => exact ⟨rfl, rfl⟩
  | taken => exact l.stays_take _

theorem stays_processDefault {l' : Level} {j' : Journal}
    (h : l.processDefault table pair j = (.ok l', j')) : l.Stays l' := by
  by_cases has : l.has pair.1 = true
  · rw [processDefault_of_has has] at h
    cases h
    exact ⟨rfl, rfl⟩
  · rw [processDefault_of_not_has has] at h
    exact stays_process h

/-- What each step leaves alone a fold leaves alone. -/
theorem stays_foldlM {α : Type} {step : Level → α → Run Level}
    (each : ∀ (l : Level) a j l' j', step l a j = (.ok l', j') → l.Stays l') {as : List α}
    {l' : Level} {j' : Journal} (h : as.foldlM step l j = (.ok l', j')) : l.Stays l' :=
  Run.invariant_of_foldlM (fun l₁ a j₁ l₂ j₂ stays step => stays.trans (each l₁ a j₁ l₂ j₂ step))
    ⟨rfl, rfl⟩ h

/-! ### The parts of a run -/

/-- The part of a run that goes through the pairs. -/
def gather (table : List (Key × Dispatch)) (pairs : Pairs) (l : Level) : Run Level :=
  pairs.foldlM (process table) l

/-- The part that comes after the pairs: the defaults, and the mandatory keys. -/
def finish (table : List (Key × Dispatch)) (defaults : Pairs) (mandatory : List Key) (fill : Bool)
    (l : Level) : Run Level := do
  let l ← (if fill then defaults else []).foldlM (processDefault table) l
  l.demand mandatory

/-- A run in two parts: the pairs of the input, then the defaults and the mandatory names. -/
theorem run_eq (table : List (Key × Dispatch)) (defaults : Pairs) (mandatory : List Key) (fill : Bool)
    (pairs : Pairs) (l : Level) : run table defaults mandatory fill pairs l
      = l.gather table pairs >>= finish table defaults mandatory fill :=
  rfl

theorem gather_append (table : List (Key × Dispatch)) (ps qs : Pairs) (l : Level) :
    l.gather table (ps ++ qs) = l.gather table ps >>= gather table qs :=
  List.foldlM_append

theorem gather_cons (table : List (Key × Dispatch)) (p : Key × Term) (ps : Pairs) (l : Level) :
    l.gather table (p :: ps) = l.process table p >>= gather table ps :=
  List.foldlM_cons

theorem stays_gather {pairs : Pairs} {l' : Level} {j' : Journal}
    (h : l.gather table pairs j = (.ok l', j')) : l.Stays l' :=
  stays_foldlM (fun _ _ _ _ _ => stays_process) h

/-- A whole run leaves the path and the options alone. -/
theorem stays_run {defaults : Pairs} {mandatory : List Key} {fill : Bool} {pairs : Pairs} {l' : Level}
    {j' : Journal} (h : l.run table defaults mandatory fill pairs j = (.ok l', j')) : l.Stays l' := by
  obtain ⟨l₁, j₁, gathered, h⟩ := Run.bind_eq_ok.1 h
  obtain ⟨l₂, j₂, filled, demanded⟩ := Run.bind_eq_ok.1 h
  rw [eq_of_demand demanded]
  exact (stays_gather gathered).trans (stays_foldlM (fun _ _ _ _ _ => stays_processDefault) filled)

end Level

namespace Dispatch

/-- A nested rule on a value of pairs: a run of the inner schema at the path of the key, its
defaults only if there is a pair, and the outcome joined into the outer level. -/
theorem nested_of_pairs {table : List (Key × Dispatch)} {defaults : Pairs} {mandatory : List Key}
    {value : Term} {pairs : Pairs} (h : value.pairs? = some pairs) (key : Key) (l : Level) :
    nested table defaults mandatory key value l = (do
      let inner ← Level.run table defaults mandatory (!pairs.isEmpty) pairs
        (.start (l.path.child key) l.options)
      return .accept key (.map inner.accepted) inner.flattened inner.unknown) := by
  simp only [nested, h]

/-- A nested rule on any other value names the kind it got. -/
theorem nested_of_none {table : List (Key × Dispatch)} {defaults : Pairs} {mandatory : List Key}
    {value : Term} (h : value.pairs? = none) (key : Key) (l : Level) :
    nested table defaults mandatory key value l
      = throw (.invalid (l.path.child key) (.notNested value.kind)) := by
  simp only [nested, h]

variable {key : Key} {value : Term} {l : Level} {j j' : Journal} {found : Found}

/-- The first alternative that accepts is the outcome. -/
theorem firstOf_of_ok {d : Dispatch} (h : d key value l j = (.ok found, j')) (count : Nat)
    (ds : List Dispatch) : firstOf count (d :: ds) key value l j = (.ok found, j') := by
  simp only [firstOf, h]

/-- An alternative's fault about the data lets the next one try; any other fault ends the search. -/
theorem firstOf_of_error {d : Dispatch} {e : ParseError} (h : d key value l j = (.error e, j'))
    (count : Nat) (ds : List Dispatch) : firstOf count (d :: ds) key value l j =
      if e.isData then firstOf count ds key value l j' else (.error e, j') := by
  simp only [firstOf, h]

/-- A callback that returns decides by its verdict. Only the session it leaves is carried on. -/
theorem callback_of_some {c : Callback} {v : Verdict} {session : Session}
    (h : c.apply key value l j.session = (some v, session)) : callback c key value l j =
      (ofVerdict (l.path.child key) key value v, { j with session := session }) := by
  simp only [callback, h]

/-- A callback that panics is a fault of the program, logged and reported at the key. -/
theorem callback_of_none {c : Callback} {session : Session}
    (h : c.apply key value l j.session = (none, session)) : callback c key value l j =
      (.error (.callbackFault (l.path.child key)),
        Journal.log { j with session := session } (.callbackFault (l.path.child key) key)) := by
  simp only [callback, h]

/-- What the first of several takes one of them takes when it is its turn. -/
theorem exists_of_firstOf {count : Nat} {ds : List Dispatch}
    (h : (firstOf count ds key value l j).1 = .ok found) :
    ∃ d ∈ ds, ∃ j', (d key value l j').1 = .ok found := by
  induction ds generalizing j with
  | nil => cases h
  | cons d ds ih =>
    rcases hd : d key value l j with ⟨e | f, k⟩
    · rw [firstOf_of_error hd] at h
      split at h
      · obtain ⟨d', hd', turn⟩ := ih h
        exact ⟨d', List.mem_cons_of_mem _ hd', turn⟩
      · cases h
    · rw [firstOf_of_ok hd] at h
      exact ⟨d, List.mem_cons_self, j, by rw [hd]; exact h⟩

/-- What a type rule found is the validated value under the key itself. -/
theorem exists_of_type {tag : Tag} (h : (type tag key value l j).1 = .ok found) :
    ∃ t, tag.validate j.session.symbols value = .ok t ∧ found = leaf key t := by
  unfold type at h
  split at h
  · rename_i t valid
    exact ⟨t, valid, (Except.ok.inj h).symm⟩
  · cases h

/-- What a callback rule found is what `ofVerdict` makes of the verdict. -/
theorem exists_of_callback {c : Callback} (h : (callback c key value l j).1 = .ok found) :
    ∃ v, (c.apply key value l j.session).1 = some v ∧
      ofVerdict (l.path.child key) key value v = .ok found := by
  rcases hv : c.apply key value l j.session with ⟨_ | v, session⟩
  · rw [callback_of_none hv] at h
    cases h
  · rw [callback_of_some hv] at h
    exact ⟨v, rfl, h⟩

/-- What a list rule found is one pair: the elements' values, arranged. -/
theorem exists_of_list {d : Discipline} {inner : Dispatch}
    (h : (list d inner key value l j).1 = .ok found) :
    ∃ values flattened unknown j', items (l.path.child key) (fun t => inner key t l)
        (ListRule.elements value) j = (.ok (values, flattened, unknown), j') ∧
      found = .accept key (.list (ListRule.arrange values d)) flattened unknown := by
  obtain ⟨⟨values, flattened, unknown⟩, k, hitems, h⟩ := Run.bind_eq_ok.1 (Prod.ext h rfl)
  cases h
  exact ⟨values, flattened, unknown, _, hitems, rfl⟩

/-- A level of its own that is taken is a run that has come to its end. -/
theorem exists_run_of_nested {table : List (Key × Dispatch)} {defaults : Pairs} {mandatory : List Key}
    (h : (nested table defaults mandatory key value l j).1 = .ok found) :
    ∃ pairs inner j', value.pairs? = some pairs ∧
      Level.run table defaults mandatory (!pairs.isEmpty) pairs (.start (l.path.child key) l.options) j
        = (.ok inner, j') ∧
      found = .accept key (.map inner.accepted) inner.flattened inner.unknown := by
  cases hp : value.pairs? with
  | none =>
    rw [nested_of_none hp] at h
    cases h
  | some pairs =>
    rw [nested_of_pairs hp] at h
    obtain ⟨inner, k, ran, h⟩ := Run.bind_eq_ok.1 (Prod.ext h rfl)
    cases h
    exact ⟨pairs, inner, _, rfl, ran, rfl⟩

/-- What a nested rule found is one pair: the map of what the inner level accepted. -/
theorem exists_of_nested {table : List (Key × Dispatch)} {defaults : Pairs} {mandatory : List Key}
    (h : (nested table defaults mandatory key value l j).1 = .ok found) :
    ∃ inner : Level, found = .accept key (.map inner.accepted) inner.flattened inner.unknown := by
  obtain ⟨_, inner, _, _, _, same⟩ := exists_run_of_nested h
  exact ⟨inner, same⟩

end Dispatch

namespace Schema

variable {s : Schema} {options : Options} {input : Term}

/-- A parse of a value of pairs is a run from an empty level at the options' path. At the top the
defaults are always filled in. -/
theorem parse_of_pairs {pairs : Pairs} (h : input.pairs? = some pairs) :
    s.parse options input = (do
      let level ← Level.run (Rule.dispatchFields s.fields) s.defaults s.mandatoryKeys true pairs
        (.start ⟨options.path⟩ options)
      return level.output) := by
  simp only [parse, h]

/-- A parse of any other value fails at that path, with the kind it got. -/
theorem parse_of_none (h : input.pairs? = none) :
    s.parse options input = throw (.invalid ⟨options.path⟩ (.notPairs input.kind)) := by
  simp only [parse, h]

end Schema

/-- A schema below a key is the nested dispatch of its fields, defaults and mandatory names. -/
theorem Schema.dispatch_eq (s : Schema) :
    s.dispatch = Dispatch.nested (Rule.dispatchFields s.fields) s.defaults s.mandatoryKeys := by
  cases s
  rw [Schema.dispatch, mandatoryKeys]

end Conform
