import Conform.Proofs.Schema.Growth
import Mathlib.Data.List.Nodup

/-!
# Rules by the names of keys

A lookup asks for the key first, then for the key of the other kind, and for a symbol only if it exists.
Where the names of a table are distinct and its symbols exist, all of this comes to one thing: the entry
that bears the key's name. So the kind of a key does not matter, and neither does the order in which the
fields of a level were declared. `names_decide` says both for every schema that can be built.
-/

namespace Conform

/-! ## Tables of distinct names -/

section Tables

variable {α : Type} {table table' : List (Key × α)}

/-- The value under a key of this name, the first if there are several. -/
def valueNamed? (table : List (Key × α)) (name : String) : Option α :=
  (table.find? fun e => e.1.name == name).map (·.2)

theorem valueNamed?_eq_none_iff {name : String} :
    valueNamed? table name = none ↔ ∀ e ∈ table, e.1.name ≠ name := by
  simp [valueNamed?]

/-- Of two entries of one name there is only one. -/
theorem DistinctNames.eq_of_name (distinct : DistinctNames table) {e e' : Key × α} (he : e ∈ table)
    (he' : e' ∈ table) (name : e.1.name = e'.1.name) : e = e' :=
  List.inj_on_of_nodup_map distinct he he' name

/-- With distinct names the entry of a name is the one that is found. -/
theorem valueNamed?_eq_some_iff (distinct : DistinctNames table) {name : String} {a : α} :
    valueNamed? table name = some a ↔ ∃ key, key.name = name ∧ (key, a) ∈ table := by
  constructor
  · intro h
    obtain ⟨⟨key, a'⟩, found, rfl⟩ := Option.map_eq_some_iff.1 h
    exact ⟨key, by simpa using List.find?_some found, List.mem_of_find?_eq_some found⟩
  · rintro ⟨key, rfl, member⟩
    cases h : valueNamed? table key.name with
    | none => exact absurd rfl (valueNamed?_eq_none_iff.1 h _ member)
    | some a' =>
      obtain ⟨⟨key', a'⟩, found, rfl⟩ := Option.map_eq_some_iff.1 h
      have name : key'.name = key.name := by simpa using List.find?_some found
      have same := distinct.eq_of_name (List.mem_of_find?_eq_some found) member name
      exact congrArg (some ∘ Prod.snd) same

theorem valueAt?_eq_some_iff (distinct : DistinctNames table) {key : Key} {a : α} :
    valueAt? table key = some a ↔ (key, a) ∈ table := by
  refine ⟨mem_of_valueAt?, fun member => ?_⟩
  cases h : valueAt? table key with
  | none =>
    have other := List.find?_eq_none.1 (Option.map_eq_none_iff.1 h) _ member
    exact absurd (beq_self_eq_true key) other
  | some a' =>
    have same := distinct.eq_of_name (mem_of_valueAt? h) member rfl
    exact congrArg (some ∘ Prod.snd) same

/-- Beside a key of the name there is no other one. -/
theorem valueAt?_eq_none_of_other (distinct : DistinctNames table) {key key' : Key} {a : α}
    (member : (key', a) ∈ table) (name : key'.name = key.name) (other : key' ≠ key) :
    valueAt? table key = none := by
  cases h : valueAt? table key with
  | none => rfl
  | some a' =>
    have entry := distinct.eq_of_name member (mem_of_valueAt? h) name
    exact absurd (congrArg Prod.fst entry) other

/-- Where the symbols of the table exist, a key finds the entry of its name. -/
theorem valueFor?_eq_valueNamed? (distinct : DistinctNames table) {t : SymbolTable}
    (known : KeysIn t table) (key : Key) : valueFor? t table key = valueNamed? table key.name := by
  apply Option.ext
  intro a
  rw [valueNamed?_eq_some_iff distinct]
  refine ⟨mem_of_valueFor?, fun ⟨key', name, member⟩ => ?_⟩
  have there := (valueAt?_eq_some_iff distinct).2 member
  by_cases same : key' = key
  · subst same
    simp only [valueFor?, there, Option.orElse_some]
  · -- The entry's key is of the other kind, so the lookup goes on to it.
    simp only [valueFor?, valueAt?_eq_none_of_other distinct member name same, Option.orElse_none]
    cases key with
    | symbol s =>
      cases key' with
      | symbol s' => exact absurd (congrArg (Key.symbol ∘ Symbol.mk) name) same
      | text n =>
        obtain rfl : n = s.name := name
        exact there
    | text n =>
      cases key' with
      | text n' => exact absurd (congrArg Key.text name) same
      | symbol s =>
        obtain rfl : s.name = n := name
        have exist : t.existing? s.name = some s :=
          SymbolTable.existing?_eq_some_iff.2 ⟨rfl, known _ member s rfl⟩
        dsimp only
        rw [exist]
        exact there

/-- Their order does not matter then. -/
theorem valueAt?_of_perm (distinct : DistinctNames table) (perm : table.Perm table') (key : Key) :
    valueAt? table' key = valueAt? table key := by
  have distinct' : DistinctNames table' := (perm.map _).nodup_iff.1 distinct
  apply Option.ext
  intro a
  rw [valueAt?_eq_some_iff distinct, valueAt?_eq_some_iff distinct', perm.mem_iff]

/-- The order of the entries does not matter, whichever symbols exist. -/
theorem valueFor?_of_perm (distinct : DistinctNames table) (perm : table.Perm table')
    (t : SymbolTable) (key : Key) : valueFor? t table' key = valueFor? t table key := by
  cases key <;> simp only [valueFor?, valueAt?_of_perm distinct perm]

end Tables

/-! ## Fields in other orders -/

/-- The second rule is the first one, with the fields of some of its levels in another order. -/
inductive Rule.Reordered : Rule → Rule → Prop where
  | refl (r : Rule) : Reordered r r
  | trans {a b c : Rule} : Reordered a b → Reordered b c → Reordered a c
  | fields {fields fields' : List (Key × Rule)} (defaults : Pairs) (mandatory : Option (List Key)) :
    fields.Perm fields' → Reordered (.nested ⟨fields, defaults, mandatory⟩)
      (.nested ⟨fields', defaults, mandatory⟩)
  | field {r r' : Rule} (before after : List (Key × Rule)) (key : Key) (defaults : Pairs)
    (mandatory : Option (List Key)) : Reordered r r' →
    Reordered (.nested ⟨before ++ (key, r) :: after, defaults, mandatory⟩)
      (.nested ⟨before ++ (key, r') :: after, defaults, mandatory⟩)
  | alternative {r r' : Rule} (before after : List Rule) : Reordered r r' →
    Reordered (.oneOf (before ++ r :: after)) (.oneOf (before ++ r' :: after))
  | list {r r' : Rule} (d : Discipline) : Reordered r r' → Reordered (.list d r) (.list d r')

/-- A step looks at its table through `valueFor?` only. -/
theorem Level.process_congr {table table' : List (Key × Dispatch)}
    (h : ∀ t key, valueFor? t table' key = valueFor? t table key) :
    Level.process table' = Level.process table := by
  funext l pair j
  simp only [process, h]

/-- A level asks its table for nothing but dispatchers by keys. -/
theorem Level.run_congr {table table' : List (Key × Dispatch)}
    (h : ∀ t key, valueFor? t table' key = valueFor? t table key) :
    Level.run table' = Level.run table := by
  funext defaults mandatory fill pairs l
  have step (l : Level) (pair : Key × Term) :
      l.processDefault table' pair = l.processDefault table pair := by
    simp only [processDefault, process_congr h]
  simp only [run, process_congr h, funext₂ step]

namespace Schema

/-- The run through a level of the schema. -/
def levels (s : Schema) : Bool → Pairs → Level → Run Level :=
  Level.run (Rule.dispatchFields s.fields) s.defaults s.mandatoryKeys

/-- A parse looks at a schema through its levels only: tables, defaults in their order, mandatory
names. -/
theorem parse_congr {s s' : Schema} (h : s'.levels = s.levels) : s'.parse = s.parse := by
  funext options input
  unfold parse
  cases input.pairs? with
  | none => rfl
  | some pairs =>
    have run := congrFun (congrFun (congrFun h true) pairs) (.start ⟨options.path⟩ options)
    exact congrArg (fun run : Run Level => do let level ← run; return level.output) run

theorem dispatch_congr {s s' : Schema} (h : s'.levels = s.levels) : s'.dispatch = s.dispatch := by
  rw [dispatch_eq, dispatch_eq]
  funext key value level
  unfold Dispatch.nested
  cases value.pairs? with
  | none => rfl
  | some pairs =>
    have run := congrFun (congrFun (congrFun h (!pairs.isEmpty)) pairs)
      (.start (level.path.child key) level.options)
    exact congrArg (fun run : Run Level => do
      let inner ← run
      return Found.accept key (.map inner.accepted) inner.flattened inner.unknown) run

end Schema

/-- The second rule does what the first does, and where they are schemas, so do their levels. -/
structure Rule.ActsAs (r r' : Rule) : Prop where
  dispatch : r'.dispatch = r.dispatch
  levels : ∀ s, r = .nested s → ∃ s', r' = .nested s' ∧ s'.levels = s.levels

theorem Rule.ActsAs.of_levels {s s' : Schema} (h : s'.levels = s.levels) :
    ActsAs (.nested s) (.nested s') where
  dispatch := by
    rw [Rule.dispatch, Rule.dispatch, Schema.dispatch_congr h]
  levels := by
    rintro _ ⟨rfl⟩
    exact ⟨s', rfl, h⟩

/-- Where the names are distinct at every level, other orders make no difference. -/
theorem Rule.actsAs_of_reordered {r r' : Rule} (h : Reordered r r') (named : r.Every WellNamed) :
    r'.Every WellNamed ∧ r.ActsAs r' := by
  induction h with
  | refl r => exact ⟨named, rfl, fun s hs => ⟨s, hs, rfl⟩⟩
  | trans _ _ ih ih' =>
    obtain ⟨middle, first⟩ := ih named
    obtain ⟨last, second⟩ := ih' middle
    refine ⟨last, second.dispatch.trans first.dispatch, fun s hs => ?_⟩
    obtain ⟨s', hs', same⟩ := first.levels s hs
    obtain ⟨s'', hs'', same'⟩ := second.levels s' hs'
    exact ⟨s'', hs'', same'.trans same⟩
  | fields defaults mandatory perm =>
    have distinct := (named.here : Schema.Distinct _)
    constructor
    · refine every_nested_iff.2 ⟨⟨(perm.map _).nodup_iff.1 distinct.fields, distinct.defaults,
        distinct.mandatory⟩, fun f hf => named.field (perm.mem_iff.2 hf)⟩
    · refine .of_levels (congrFun (congrFun (Level.run_congr fun t key => ?_) defaults) _)
      simp only [dispatchFields_eq_map, valueFor?_map]
      rw [valueFor?_of_perm distinct.fields perm]
  | @field r r' before after key defaults mandatory _ ih =>
    have inner : r.Every WellNamed :=
      named.field (f := (key, r)) (List.mem_append_right _ List.mem_cons_self)
    obtain ⟨named', acts⟩ := ih inner
    constructor
    · have distinct := (named.here : Schema.Distinct _)
      have names : DistinctNames (before ++ (key, r') :: after) := by
        have fields := distinct.fields
        simpa [DistinctNames] using fields
      refine every_nested_iff.2 ⟨⟨names, distinct.defaults, distinct.mandatory⟩, fun f hf => ?_⟩
      rcases List.mem_append.1 hf with hf | hf
      · exact named.field (List.mem_append_left _ hf)
      · rcases List.mem_cons.1 hf with rfl | hf
        · exact named'
        · exact named.field (List.mem_append_right _ (List.mem_cons_of_mem _ hf))
    · refine .of_levels ?_
      have table : dispatchFields (before ++ (key, r') :: after)
          = dispatchFields (before ++ (key, r) :: after) := by
        simp only [dispatchFields_eq_map, List.map_append, List.map_cons, acts.dispatch]
      simp only [Schema.levels, table]
      rfl
  | @alternative r r' before after _ ih =>
    have inner : r.Every WellNamed :=
      named.alternative (List.mem_append_right _ List.mem_cons_self)
    obtain ⟨named', acts⟩ := ih inner
    refine ⟨every_oneOf_iff.2 ⟨trivial, fun a ha => ?_⟩, ?_, fun _ hs => by cases hs⟩
    · rcases List.mem_append.1 ha with ha | ha
      · exact named.alternative (List.mem_append_left _ ha)
      · rcases List.mem_cons.1 ha with rfl | ha
        · exact named'
        · exact named.alternative (List.mem_append_right _ (List.mem_cons_of_mem _ ha))
    · simp only [dispatch, dispatchAll_eq_map, List.map_append, List.map_cons, acts.dispatch,
        List.length_append, List.length_cons]
  | list d _ ih =>
    obtain ⟨named', acts⟩ := ih named.inner
    refine ⟨every_list_iff.2 ⟨trivial, named'⟩, ?_, fun _ hs => by cases hs⟩
    rw [dispatch, dispatch, acts.dispatch]

/-! ## Schemas that can be built -/

namespace Schema

/-- A key has the rule of the one field that bears its name, be it a symbol or a text. -/
structure LooksUpByName (t : SymbolTable) (s : Schema) : Prop where
  rule : ∀ key r, s.ruleFor? t key = some r ↔ ∃ f ∈ s.fields, f.1.name = key.name ∧ f.2 = r
  unique : ∀ f ∈ s.fields, ∀ g ∈ s.fields, f.1.name = g.1.name → f = g
  unknown : ∀ key, s.ruleFor? t key = none ↔ ∀ f ∈ s.fields, f.1.name ≠ key.name
  kinds : ∀ name, s.ruleFor? t (.symbol ⟨name⟩) = s.ruleFor? t (.text name)

/-- With distinct names and known keys a rule is found by the name of a key, whichever kind the key
or the field's is. -/
theorem Distinct.looksUpByName {s : Schema} (distinct : s.Distinct) {t : SymbolTable}
    (known : KeysIn t s.fields) : s.LooksUpByName t where
  rule key r := by
    rw [ruleFor?, valueFor?_eq_valueNamed? distinct.fields known,
      valueNamed?_eq_some_iff distinct.fields]
    constructor
    · rintro ⟨k, name, member⟩
      exact ⟨(k, r), member, name, rfl⟩
    · rintro ⟨⟨k, _⟩, member, name, rfl⟩
      exact ⟨k, name, member⟩
  unique _ hf _ hg name := distinct.fields.eq_of_name hf hg name
  unknown key := by
    rw [ruleFor?, valueFor?_eq_valueNamed? distinct.fields known, valueNamed?_eq_none_iff]
  kinds name := by
    rw [ruleFor?, ruleFor?, valueFor?_eq_valueNamed? distinct.fields known,
      valueFor?_eq_valueNamed? distinct.fields known]
    rfl

/-- **Names decide.** In a schema that can be built, at every level, no two fields, no two defaults and
no two mandatory keys bear one name. So a key has the rule of the one field of its name, whatever the
kind of either, and the order of the fields, at any level, changes nothing of what parsing does. -/
theorem names_decide {s : Schema} (built : s.Built) :
    (∀ s', Rule.Within (.nested s') (.nested s) →
      s'.Distinct ∧ ∀ t, KeysIn t s'.fields → s'.LooksUpByName t) ∧
    ∀ s', Rule.Reordered (.nested s) (.nested s') → s'.parse = s.parse := by
  constructor
  · intro s' within
    have distinct : s'.Distinct := built.wellNamed _ within
    exact ⟨distinct, fun t known => distinct.looksUpByName known⟩
  · intro s' reordered
    obtain ⟨-, acts⟩ := Rule.actsAs_of_reordered reordered built.wellNamed
    obtain ⟨_, ⟨rfl⟩, same⟩ := acts.levels s rfl
    exact parse_congr same

/-- A listener before a backend. Its port is declared twice, first under a text and then under a symbol,
and named twice as mandatory. -/
def listener : Creating Schema := do
  let s ← (Schema.empty.withField (.text "port") (.type .integer)).field "port" (.type .port)
  let s ← s.field "backend" (.nested backend)
  let s ← s.defaultValue "port" (.integer 80)
  s.mandatoryNames ["port", "port"]

/-- A text finds the listener's port, which is the later one of the two, and the listener that lists its
fields the other way round parses alike. -/
theorem names_decide_listener :
    let s := (listener.run .start).1
    let t := (listener.run .start).2.symbols
    let backwards : Schema := ⟨s.fields.reverse, s.defaults, s.mandatory⟩
    s.Built ∧ KeysIn t s.fields ∧ Rule.Reordered (.nested s) (.nested backwards) ∧
      s.mandatoryKeys = [.symbol ⟨"port"⟩] ∧ s.ruleFor? t (.text "port") = some (.type .port) ∧
      s.ruleFor? t (.text "host") = none ∧ backwards.parse = s.parse := by
  intro s t backwards
  have built : s.Built := by
    have plain := Built.empty.field (.text "port") (r := .type .integer) (by simp [Rule.Built])
    have port := plain.field_symbol "port" (r := .type .port) (by simp [Rule.Built]) .start
    have backend := port.field_symbol "backend" every_built_backend ⟨⟨[⟨"port"⟩]⟩, 0⟩
    exact (backend.defaultValue "port" (.integer 80) ⟨⟨[⟨"backend"⟩, ⟨"port"⟩]⟩, 0⟩).mandatoryNames
      ["port", "port"] ⟨⟨[⟨"backend"⟩, ⟨"port"⟩]⟩, 0⟩
  have fields : s.fields = [(.symbol ⟨"port"⟩, .type .port), (.symbol ⟨"backend"⟩, .nested backend)] :=
    rfl
  have symbols : t = ⟨[⟨"backend"⟩, ⟨"port"⟩]⟩ := rfl
  have known : KeysIn t s.fields := by
    simp [fields, symbols, KeysIn]
  have reordered : Rule.Reordered (.nested s) (.nested backwards) :=
    .fields s.defaults s.mandatory (List.reverse_perm s.fields).symm
  obtain ⟨levels, orders⟩ := names_decide built
  have lookup := (levels s (.refl _)).2 t known
  refine ⟨built, known, reordered, rfl, ?_, ?_, orders backwards reordered⟩
  · exact (lookup.rule _ _).2 ⟨(.symbol ⟨"port"⟩, .type .port), by simp [fields], rfl, rfl⟩
  · refine (lookup.unknown _).2 fun f hf => ?_
    simp only [fields, List.mem_cons, List.not_mem_nil, or_false] at hf
    rcases hf with rfl | rfl <;> simp [Key.name]

end Schema

end Conform
