import Conform.Proofs.Schema.Naming

/-!
# Merging, name by name

Merging goes through the update's entries and changes or adds one after another. What comes of it can be
said without that order: under each name stands the merge of what the two sides have there, or what one
side has alone. The step is `upsert`, seen through `valueNamed?`; the run is `layOver`, of which the merging
of fields and that of pairs are the two cases. Where the update bears each name once, no entry of it meets
another.
-/

namespace Conform

/-! ## Tables laid over each other -/

section Tables

variable {α : Type} {update base : List (Key × α)}

theorem valueNamed?_cons (key : Key) (a : α) (table : List (Key × α)) (name : String) :
    valueNamed? ((key, a) :: table) name
      = if key.name = name then some a else valueNamed? table name := by
  by_cases h : key.name = name <;> simp [valueNamed?, h]

/-- Changing or adding an entry is seen under its name and under no other. -/
theorem valueNamed?_upsert (key : Key) (change : α → α) (new : α) (table : List (Key × α))
    (name : String) :
    valueNamed? (upsert key change new table) name
      = if key.name = name then some ((valueNamed? table name).elim new change)
        else valueNamed? table name := by
  induction table with
  | nil => simp [upsert, valueNamed?]
  | cons e rest ih =>
    obtain ⟨k, v⟩ := e
    by_cases hk : k.name = key.name
    · by_cases h : key.name = name <;> simp [upsert, Key.sameName, valueNamed?_cons, hk, h]
    · by_cases h : key.name = name
      · subst h
        simp [upsert, Key.sameName, valueNamed?_cons, hk, ih]
      · simp [upsert, Key.sameName, valueNamed?_cons, hk, ih, h]

/-- The update's keys whose names the base does not have. -/
def newKeys (update base : List (Key × α)) : List Key :=
  (update.map (·.1)).filter fun key => (valueNamed? base key.name).isNone

theorem DistinctNames.tail {e : Key × α} {rest : List (Key × α)} (h : DistinctNames (e :: rest)) :
    DistinctNames rest :=
  (List.nodup_cons.1 h).2

theorem DistinctNames.head {e : Key × α} {rest : List (Key × α)} (h : DistinctNames (e :: rest)) :
    ∀ f ∈ rest, f.1.name ≠ e.1.name :=
  fun f hf same => (List.nodup_cons.1 h).1 (List.mem_map.2 ⟨f, hf, same⟩)

/-- Under each name stands the merge of both sides, or what one side has alone. -/
theorem valueNamed?_layOver (merge : α → α → α) (distinct : DistinctNames update)
    (base : List (Key × α)) (name : String) :
    valueNamed? (layOver merge update base) name
      = Option.merge merge (valueNamed? update name) (valueNamed? base name) := by
  induction update generalizing base with
  | nil => cases h : valueNamed? base name <;> exact h
  | cons e rest ih =>
    have step := ih distinct.tail (upsert e.1 (merge e.2) e.2 base)
    rw [valueNamed?_upsert] at step
    refine step.trans ?_
    rw [valueNamed?_cons]
    by_cases h : e.1.name = name
    · have alone : valueNamed? rest name = none := by
        subst h
        exact valueNamed?_eq_none_iff.2 distinct.head
      rw [if_pos h, if_pos h, alone]
      cases valueNamed? base name <;> rfl
    · rw [if_neg h, if_neg h]

/-- The base's keys stay in their places, and the new ones follow in the update's order. -/
theorem keys_layOver (merge : α → α → α) (distinct : DistinctNames update)
    (base : List (Key × α)) :
    (layOver merge update base).map (·.1) = base.map (·.1) ++ newKeys update base := by
  induction update generalizing base with
  | nil => simp [layOver, newKeys]
  | cons e rest ih =>
    have step := ih distinct.tail (upsert e.1 (merge e.2) e.2 base)
    -- The entry makes a difference to no key behind it, for these have other names.
    have others : newKeys rest (upsert e.1 (merge e.2) e.2 base) = newKeys rest base := by
      refine List.filter_congr fun key hkey => ?_
      obtain ⟨f, hf, rfl⟩ := List.mem_map.1 hkey
      rw [valueNamed?_upsert, if_neg (Ne.symm (distinct.head f hf))]
    rw [others, keys_upsert] at step
    refine step.trans ?_
    have first : e.1.name ∈ base.map (·.1.name) ↔ ¬(valueNamed? base e.1.name).isNone := by
      rw [Option.isNone_iff_eq_none, valueNamed?_eq_none_iff]
      simp
    unfold newKeys
    rw [List.map_cons, List.filter_cons]
    by_cases h : (valueNamed? base e.1.name).isNone
    · rw [if_neg fun there => first.1 there h, if_pos h]
      simp
    · rw [if_pos (first.2 h), if_neg h]

/-- A merged table has its keys in the same table of symbols. -/
theorem keysIn_layOver {t : SymbolTable} (merge : α → α → α) (distinct : DistinctNames update)
    (hu : KeysIn t update) (hb : KeysIn t base) : KeysIn t (layOver merge update base) := by
  intro entry hentry
  have key : entry.1 ∈ (layOver merge update base).map (·.1) := List.mem_map_of_mem hentry
  rw [keys_layOver merge distinct, List.mem_append] at key
  rcases key with old | new
  · obtain ⟨e, he, same⟩ := List.mem_map.1 old
    exact same ▸ hb e he
  · obtain ⟨e, he, same⟩ := List.mem_map.1 (List.mem_filter.1 new).1
    exact same ▸ hu e he

end Tables

/-! ## Terms -/

namespace Term

/-- A term that does not meet a map with a map replaces what it covers. -/
theorem mergeOver_of_not_maps {u b : Term} (h : ∀ us bs, u = .map us → b ≠ .map bs) :
    u.mergeOver b = u := by
  cases u with
  | map us =>
    cases b with
    | map bs => exact absurd rfl (h us bs rfl)
    | _ => rw [mergeOver]; intro bs e; cases e
  | _ => rw [mergeOver]; intro us e; cases e

/-- What comes of laying a term over another. -/
structure Overlaid (u b : Term) : Prop where
  replaced : (∀ us bs, u = .map us → b ≠ .map bs) → u.mergeOver b = u
  merged : ∀ us bs, u = .map us → b = .map bs →
    ∃ pairs, u.mergeOver b = .map pairs ∧ pairs.map (·.1) = bs.map (·.1) ++ newKeys us bs
  values : ∀ us bs, u = .map us → b = .map bs → ∀ name,
    (u.mergeOver b).get? name = Option.merge mergeOver (u.get? name) (b.get? name)

/-- A merge of terms is their overlay, path by path, if the maps of the upper one name each key
once. -/
theorem overlaid_of_distinct {u b : Term} (distinct : ∀ us, u = .map us → DistinctNames us) :
    u.Overlaid b where
  replaced := mergeOver_of_not_maps
  merged := by
    rintro us bs rfl rfl
    refine ⟨mergePairs us bs, by rw [mergeOver], ?_⟩
    rw [mergePairs_eq_layOver, keys_layOver mergeOver (distinct us rfl)]
  values := by
    rintro us bs rfl rfl name
    rw [mergeOver, mergePairs_eq_layOver]
    exact valueNamed?_layOver mergeOver (distinct us rfl) bs name

end Term

/-! ## Schemas -/

/-- A rule that does not meet a nested schema with a nested schema replaces what it covers. -/
theorem Rule.mergeOver_of_not_nested {u b : Rule}
    (h : ∀ su sb, u = .nested su → b ≠ .nested sb) : u.mergeOver b = u := by
  cases u with
  | nested su =>
    cases b with
    | nested sb => exact absurd rfl (h su sb rfl)
    | _ => rw [mergeOver]; intro sb e; cases e
  | _ => rw [mergeOver]; intro su e; cases e

namespace Schema

/-- The fields of a merge are the fields laid over; defaults and mandatory names have the like. -/
theorem fields_merge (u b : Schema) :
    (merge u b).fields = layOver Rule.mergeOver u.fields b.fields := by
  cases u
  rw [merge, Rule.mergeFields_eq_layOver]

theorem defaults_merge (u b : Schema) :
    (merge u b).defaults = layOver Term.mergeOver u.defaults b.defaults := by
  cases u
  rw [merge, Term.mergePairs_eq_layOver]

theorem mandatory_merge (u b : Schema) : (merge u b).mandatory = u.mandatory.or b.mandatory := by
  cases u
  rw [merge]

variable {t : SymbolTable} {u b : Schema}

/-- The rule of a key after merging, from the rules that the two schemas have for it. -/
theorem ruleFor?_merge (hu : u.Distinct) (hb : b.Distinct) (known : KeysIn t u.fields)
    (known' : KeysIn t b.fields) (key : Key) :
    (merge u b).ruleFor? t key
      = Option.merge Rule.mergeOver (u.ruleFor? t key) (b.ruleFor? t key) := by
  have distinct : DistinctNames (merge u b).fields := by
    refine (Distinct.merge (fun keys hk => ?_) hb).fields
    have named := hu.mandatory
    rwa [mandatoryKeys, hk] at named
  have symbols : KeysIn t (merge u b).fields := by
    rw [fields_merge]
    exact keysIn_layOver Rule.mergeOver hu.fields known known'
  rw [ruleFor?, ruleFor?, ruleFor?, valueFor?_eq_valueNamed? distinct symbols,
    valueFor?_eq_valueNamed? hu.fields known, valueFor?_eq_valueNamed? hb.fields known',
    fields_merge, valueNamed?_layOver Rule.mergeOver hu.fields]

/-- What comes of laying a schema over another, seen under the symbols of a table. The nested schemas
that are merged have been built themselves, so that the same holds of them. -/
structure Overlaid (t : SymbolTable) (u b : Schema) : Prop where
  nested : ∀ key su sb, u.ruleFor? t key = some (.nested su) → b.ruleFor? t key = some (.nested sb) →
    su.Built ∧ sb.Built ∧ (merge u b).ruleFor? t key = some (.nested (merge su sb))
  update : ∀ key r, u.ruleFor? t key = some r →
    (∀ su sb, r = .nested su → b.ruleFor? t key ≠ some (.nested sb)) →
    (merge u b).ruleFor? t key = some r
  base : ∀ key, u.ruleFor? t key = none → (merge u b).ruleFor? t key = b.ruleFor? t key
  fields : (merge u b).fields.map (·.1) = b.fields.map (·.1) ++ newKeys u.fields b.fields
  defaults : ∀ name, valueNamed? (merge u b).defaults name
    = Option.merge Term.mergeOver (valueNamed? u.defaults name) (valueNamed? b.defaults name)
  defaultKeys : (merge u b).defaults.map (·.1)
    = b.defaults.map (·.1) ++ newKeys u.defaults b.defaults
  mandatory : ∀ keys, (merge u b).mandatory = some keys ↔
    u.mandatory = some keys ∨ u.mandatory = none ∧ b.mandatory = some keys

theorem Built.of_ruleFor? {s s' : Schema} (h : s.Built) {key : Key}
    (found : s.ruleFor? t key = some (.nested s')) : s'.Built := by
  obtain ⟨k, -, member⟩ := mem_of_ruleFor? found
  exact (h.every.field member).here

/-- **Merging goes name by name.** For schemas that can be built: two nested schemas of one key are merged,
every other rule of the update replaces that of the base, and the base keeps the rest; the defaults of one
name are merged as terms, and the update's mandatory keys, if it has any list of them, replace the base's.
For terms, where the update bears each name once: a map over a map has under each name the merge of the
values, or the one that there is, and any other term replaces what it covers. The base's keys stay as and
where they are, and the new ones follow in the update's order. -/
theorem merge_name_by_name :
    (∀ u b : Schema, u.Built → b.Built → ∀ t, KeysIn t u.fields → KeysIn t b.fields → u.Overlaid t b) ∧
    ∀ u b : Term, (∀ us, u = .map us → DistinctNames us) → u.Overlaid b := by
  refine ⟨fun u b hu hb t known known' => ?_, fun u b distinct => Term.overlaid_of_distinct distinct⟩
  have named := hu.wellNamed.distinct
  have rule (key : Key) := ruleFor?_merge named hb.wellNamed.distinct known known' key
  constructor
  · intro key su sb update base
    refine ⟨hu.of_ruleFor? update, hb.of_ruleFor? base, ?_⟩
    rw [rule, update, base]
    simp only [Option.merge, Rule.mergeOver]
  · intro key r update other
    rw [rule, update]
    cases base : b.ruleFor? t key with
    | none => rfl
    | some r' =>
      have replaces : r.mergeOver r' = r :=
        Rule.mergeOver_of_not_nested fun su sb hr hr' => other su sb hr (hr' ▸ base)
      simp only [Option.merge, replaces]
  · intro key absent
    rw [rule, absent]
    cases b.ruleFor? t key <;> rfl
  · rw [fields_merge, keys_layOver Rule.mergeOver named.fields]
  · intro name
    rw [defaults_merge, valueNamed?_layOver Term.mergeOver named.defaults]
  · rw [defaults_merge, keys_layOver Term.mergeOver named.defaults]
  · intro keys
    rw [mandatory_merge]
    cases u.mandatory <;> simp

/-- An update of a service: its backend, here under a symbol, listens on any port and need not name its
host, and there is a zone. -/
def zoned : Schema :=
  ⟨[(.symbol ⟨"backend"⟩, .nested ⟨[(.text "port", .type .integer)], [], some []⟩),
    (.text "zone", .type .string)], [(.symbol ⟨"zone"⟩, .string "a")], none⟩

theorem built_zoned : zoned.Built := by
  have port := Built.empty.field (.text "port") (r := .type .integer) (by simp [Rule.Built])
  have inner := port.withMandatory []
  have backend := Built.empty.field (.symbol ⟨"backend"⟩) inner.every
  have zone := backend.field (.text "zone") (r := .type .string) (by simp [Rule.Built])
  exact zone.withDefault (.symbol ⟨"zone"⟩) (.string "a")

/-- The two backends are merged under the service's key, and so are two maps of limits. -/
theorem merge_name_by_name_zoned :
    let t : SymbolTable := ⟨[⟨"backend"⟩, ⟨"zone"⟩]⟩
    let inner : Schema := ⟨[(.text "port", .type .integer)], [], some []⟩
    let limits : Term := .map [(.text "soft", .integer 2), (.text "burst", .integer 9)]
    let before : Term := .map [(.symbol ⟨"soft"⟩, .integer 1), (.text "hard", .integer 5)]
    zoned.Built ∧ service.Built ∧ KeysIn t zoned.fields ∧ KeysIn t service.fields ∧
      (merge zoned service).ruleFor? t (.text "backend") = some (.nested (merge inner backend)) ∧
      (merge zoned service).fields.map (·.1) = [.text "backend", .text "name", .text "zone"] ∧
      (limits.mergeOver before).get? "soft" = some (.integer 2) ∧
      (limits.mergeOver before).get? "hard" = some (.integer 5) := by
  intro t inner limits before
  have known : KeysIn t zoned.fields := by simp [KeysIn, zoned, t]
  have known' : KeysIn t service.fields := by simp [KeysIn, service]
  obtain ⟨schemas, terms⟩ := merge_name_by_name
  have merged := schemas zoned service built_zoned built_service t known known'
  have once : ∀ us, limits = .map us → DistinctNames us := by
    intro us h
    obtain rfl := Term.map.inj h
    simp [DistinctNames, Key.name]
  have values := (terms limits before once).values _ _ rfl rfl
  refine ⟨built_zoned, built_service, known, known', ?_, merged.fields, values "soft", values "hard"⟩
  exact (merged.nested (.text "backend") inner backend rfl rfl).2.2

end Schema

end Conform
