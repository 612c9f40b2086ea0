import Conform.Proofs.Rule.Depth
import Conform.Schema.Merge

/-!
# Schemas that can be built

The fields of a schema are reached only through the steps of building it. `Schema.Built` are the
schemas that any succession of these steps leads to, nested schemas included. All of them keep the
names of their fields distinct, and so those of the defaults and of the mandatory keys, at every
depth: each step keeps `Schema.WellNamed`.
-/

namespace Conform

variable {α : Type}

/-- No two entries have keys of the same name. -/
def DistinctNames (table : List (Key × α)) : Prop :=
  (table.map (·.1.name)).Nodup

/-- Placing an entry keeps names apart: one of its name is replaced where it stands. -/
theorem distinctNames_place {table : List (Key × α)} (h : DistinctNames table) (key : Key)
    (value : α) : DistinctNames (place table key value) := by
  unfold DistinctNames place
  rw [List.map_append, List.nodup_append]
  refine ⟨h.sublist (List.filter_sublist.map _), by simp, ?_⟩
  intro a ha b hb
  obtain ⟨e, he, rfl⟩ := List.mem_map.1 ha
  obtain rfl : b = key.name := by simpa using hb
  simpa [Key.sameName] using (List.mem_filter.1 he).2

/-- Changing or adding an entry keeps the keys, and adds at most the entry's own. -/
theorem keys_upsert (key : Key) (change : α → α) (new : α) (table : List (Key × α)) :
    (upsert key change new table).map (·.1) =
      if key.name ∈ table.map (·.1.name) then table.map (·.1) else table.map (·.1) ++ [key] := by
  induction table with
  | nil => simp [upsert]
  | cons e rest ih =>
    obtain ⟨k, v⟩ := e
    by_cases hk : k.name = key.name
    · simp [upsert, Key.sameName, hk]
    · have other : key.name ≠ k.name := fun h => hk h.symm
      simp only [upsert, Key.sameName, beq_iff_eq, hk, if_false, List.map_cons, ih,
        List.mem_cons, other, false_or]
      split <;> simp

/-- An upsert adds a name at the end or none. -/
theorem names_upsert (key : Key) (change : α → α) (new : α) (table : List (Key × α)) :
    (upsert key change new table).map (·.1.name) =
      if key.name ∈ table.map (·.1.name) then table.map (·.1.name)
      else table.map (·.1.name) ++ [key.name] := by
  have keys := congrArg (List.map Key.name) (keys_upsert key change new table)
  rw [List.map_map] at keys
  refine keys.trans ?_
  split <;> simp

theorem distinctNames_upsert {table : List (Key × α)} (h : DistinctNames table) (key : Key)
    (change : α → α) (new : α) : DistinctNames (upsert key change new table) := by
  unfold DistinctNames at *
  rw [names_upsert]
  split
  · exact h
  · rename_i absent
    rw [List.nodup_append]
    refine ⟨h, by simp, fun a ha b hb => ?_⟩
    obtain rfl : b = key.name := by simpa using hb
    rintro rfl
    exact absent ha

/-- An update laid over a table, one entry after another. -/
def layOver (merge : α → α → α) (update base : List (Key × α)) : List (Key × α) :=
  update.foldl (fun done e => upsert e.1 (merge e.2) e.2 done) base

/-- Merging maps and merging fields are one operation on tables, `layOver`, each with its own way to
merge what stands under a name. -/
theorem Term.mergePairs_eq_layOver (update base : Pairs) :
    mergePairs update base = layOver mergeOver update base := by
  induction update generalizing base with
  | nil => rw [mergePairs]; rfl
  | cons p rest ih =>
    rw [mergePairs, ih]
    rfl

theorem Rule.mergeFields_eq_layOver (update base : List (Key × Rule)) :
    mergeFields update base = layOver mergeOver update base := by
  induction update generalizing base with
  | nil => rw [mergeFields]; rfl
  | cons f rest ih =>
    rw [mergeFields, ih]
    rfl

/-- Laying a table over one with distinct names keeps them distinct, by `distinctNames_upsert` for
each entry. -/
theorem distinctNames_layOver {merge : α → α → α} {base : List (Key × α)} (h : DistinctNames base)
    (update : List (Key × α)) : DistinctNames (layOver merge update base) := by
  induction update generalizing base with
  | nil => exact h
  | cons e rest ih => exact ih (distinctNames_upsert h _ _ _)

/-- Mandatory names are listed once each. -/
theorem nodup_distinctAfter (keys : List Key) {kept : List Key} (h : (kept.map Key.name).Nodup) :
    ((distinctAfter kept keys).map Key.name).Nodup := by
  induction keys generalizing kept with
  | nil => rw [distinctAfter]; exact h
  | cons k ks ih =>
    rw [distinctAfter]
    apply ih
    split
    · exact h
    · rename_i fresh
      rw [List.map_append, List.nodup_append]
      refine ⟨h, by simp, fun a ha b hb => ?_⟩
      obtain rfl : b = k.name := by simpa using hb
      rintro rfl
      obtain ⟨k', hk', same⟩ := List.mem_map.1 ha
      exact fresh (List.any_eq_true.2 ⟨k', hk', by simp [Key.sameName, same]⟩)

/-! ## Schemas -/

/-- One level's names are distinct: of its fields, of its defaults, of its mandatory keys. -/
structure Schema.Distinct (s : Schema) : Prop where
  fields : DistinctNames s.fields
  defaults : DistinctNames s.defaults
  mandatory : (s.mandatoryKeys.map Key.name).Nodup

/-- A rule that is no nested schema, or one whose names are distinct. -/
def Rule.WellNamed : Rule → Prop
  | .nested s => s.Distinct
  | _ => True

/-- The names are distinct at every level. -/
def Schema.WellNamed (s : Schema) : Prop :=
  (Rule.nested s).Every Rule.WellNamed

theorem Schema.WellNamed.distinct {s : Schema} (h : s.WellNamed) : s.Distinct :=
  h.here

/-- The schemas that the steps of building lead to. A rule may be any, as long as the schemas nested
in it have been built. -/
inductive Schema.Built : Schema → Prop where
  | empty : Built .empty
  | withField {s : Schema} (key : Key) {rule : Rule} : Built s →
    (∀ s', Rule.Within (.nested s') rule → Built s') → Built (s.withField key rule)
  | withDefault {s : Schema} (key : Key) (value : Term) : Built s → Built (s.withDefault key value)
  | withMandatory {s : Schema} (keys : List Key) : Built s → Built (s.withMandatory keys)
  | merge {update base : Schema} : Built update → Built base → Built (.merge update base)
  | addDefaults {s : Schema} (defaults : Pairs) : Built s → Built (s.addDefaults defaults)
  | addMandatory {s : Schema} (keys : List Key) : Built s → Built (s.addMandatory keys)

/-- A rule that is no nested schema, or one that can be built. -/
def Rule.Built : Rule → Prop
  | .nested s => s.Built
  | _ => True

/-- Adding a field whose rule has been put together from schemas that can be built. -/
theorem Schema.Built.field {s : Schema} (h : s.Built) (key : Key) {r : Rule}
    (hr : r.Every Rule.Built) : (s.withField key r).Built :=
  .withField key h fun s' within => hr (.nested s') within

/-- A merge of schemas names each field, default and mandatory key once, if its parts do. -/
theorem Schema.Distinct.merge {update base : Schema} (hu : ∀ keys, update.mandatory = some keys →
    (keys.map Key.name).Nodup) (hb : base.Distinct) : (Schema.merge update base).Distinct := by
  obtain ⟨fields, defaults, mandatory⟩ := update
  rw [Schema.merge, Rule.mergeFields_eq_layOver, Term.mergePairs_eq_layOver]
  refine ⟨distinctNames_layOver hb.fields _, distinctNames_layOver hb.defaults _, ?_⟩
  cases mandatory with
  | none => exact hb.mandatory
  | some keys => exact hu keys rfl

/-- A property of all fields' rules that changing and adding keep holds after merging. -/
theorem Rule.forall_mem_mergeFields {P : Rule → Prop} {update base : List (Key × Rule)}
    (hu : ∀ f ∈ update, P f.2 ∧ ∀ b, P b → P (f.2.mergeOver b)) (hb : ∀ f ∈ base, P f.2) :
    ∀ f ∈ mergeFields update base, P f.2 := by
  induction update generalizing base with
  | nil => rw [mergeFields]; exact hb
  | cons f rest ih =>
    obtain ⟨k, r⟩ := f
    rw [mergeFields]
    obtain ⟨⟨here, changed⟩, others⟩ := List.forall_mem_cons.1 hu
    refine ih others ?_
    clear ih
    induction base with
    | nil => simpa [upsert] using here
    | cons e rest ih =>
      obtain ⟨hv, hrest⟩ := List.forall_mem_cons.1 hb
      rw [upsert]
      split
      · exact List.forall_mem_cons.2 ⟨changed _ hv, hrest⟩
      · exact List.forall_mem_cons.2 ⟨hv, ih hrest⟩

/-- A property that merging two nested schemas keeps holds at every depth of rules laid over each
other. -/
theorem Rule.every_mergeOver {P : Rule → Prop} (closed : ∀ {u b : Schema}, P (.nested u) →
    P (.nested b) → P (.nested (Schema.merge u b))) {update base : Rule} (hu : update.Every P)
    (hb : base.Every P) : (update.mergeOver base).Every P := by
  induction update using Rule.induct generalizing base with
  | nested u ih =>
    cases base with
    | nested b =>
      rw [mergeOver, every_nested_iff]
      refine ⟨closed hu.here hb.here, ?_⟩
      have fields : (Schema.merge u b).fields = mergeFields u.fields b.fields := by
        cases u
        rw [Schema.merge]
      rw [fields]
      exact forall_mem_mergeFields (fun f hf => ⟨hu.field hf, fun b => ih f hf (hu.field hf)⟩)
        fun f hf => hb.field hf
    | type | list | oneOf | callback | ignore => rwa [mergeOver]; intro s h; cases h
  | type | list | oneOf | callback | ignore => rwa [mergeOver]; intro s h; cases h

namespace Schema

theorem fields_addDefaults (defaults : Pairs) (s : Schema) :
    (s.addDefaults defaults).fields = s.fields := by
  rw [Schema.addDefaults, Schema.merge, Rule.mergeFields]

theorem fields_addMandatory (keys : List Key) (s : Schema) :
    (s.addMandatory keys).fields = s.fields := by
  rw [Schema.addMandatory, Schema.merge, Rule.mergeFields]

/-- A merge is well named at every level, as nested schemas are merged where both have one under a
name. -/
theorem WellNamed.merge {update base : Schema} (hu : update.WellNamed) (hb : base.WellNamed) :
    (Schema.merge update base).WellNamed := by
  have := Rule.every_mergeOver (fun {u b} (hu : u.Distinct) (hb : b.Distinct) =>
    Distinct.merge (fun keys hk => ?_) hb) hu hb
  · rwa [Rule.mergeOver] at this
  · have named := hu.mandatory
    rwa [mandatoryKeys, hk] at named

/-- Adding a field keeps a schema well named. -/
theorem WellNamed.withField {s : Schema} (h : s.WellNamed) (key : Key) {rule : Rule}
    (hr : rule.Every Rule.WellNamed) : (s.withField key rule).WellNamed := by
  refine Rule.every_nested_iff.2 ⟨⟨distinctNames_place h.distinct.fields key rule,
    h.distinct.defaults, h.distinct.mandatory⟩, fun f hf => ?_⟩
  rcases List.mem_append.1 hf with old | new
  · exact h.field (List.mem_filter.1 old).1
  · obtain rfl : f = (key, rule) := by simpa using new
    exact hr

/-- A level is well named if its own names are distinct and its fields are those of a well named
schema. -/
theorem WellNamed.of_fields {s s' : Schema} (h : s.WellNamed) (fields : s'.fields = s.fields)
    (here : s'.Distinct) : s'.WellNamed :=
  Rule.every_nested_iff.2 ⟨here, fun _ hf => h.field (fields ▸ hf)⟩

/-- What can be built has distinct names at every level. -/
theorem Built.wellNamed {s : Schema} (h : s.Built) : s.WellNamed := by
  induction h with
  | empty =>
    exact Rule.every_nested_iff.2 ⟨⟨List.nodup_nil, List.nodup_nil, List.nodup_nil⟩,
      List.forall_mem_nil _⟩
  | withField key _ _ ih ihr =>
    apply ih.withField key
    intro r hr
    cases r with
    | nested s' => exact (ihr s' hr).distinct
    | type | list | oneOf | callback | ignore => trivial
  | withDefault key value _ ih =>
    exact ih.of_fields rfl ⟨ih.distinct.fields, distinctNames_place ih.distinct.defaults key value,
      ih.distinct.mandatory⟩
  | withMandatory keys _ ih =>
    exact ih.of_fields rfl ⟨ih.distinct.fields, ih.distinct.defaults,
      nodup_distinctAfter keys List.nodup_nil⟩
  | merge _ _ ihu ihb => exact ihu.merge ihb
  | addDefaults defaults _ ih =>
    refine ih.of_fields (fields_addDefaults defaults _) (Distinct.merge (fun _ hk => ?_) ih.distinct)
    cases hk
  | addMandatory keys _ ih =>
    refine ih.of_fields (fields_addMandatory keys _) (Distinct.merge (fun _ hk => ?_) ih.distinct)
    cases hk
    exact nodup_distinctAfter keys List.nodup_nil

/-- What can be built is made of schemas that can be built. -/
theorem Built.every {s : Schema} (h : s.Built) : (Rule.nested s).Every Rule.Built := by
  induction h with
  | empty => exact Rule.every_nested_iff.2 ⟨.empty, List.forall_mem_nil _⟩
  | @withField s key rule built inner ih _ =>
    have added : rule.Every Rule.Built := by
      intro r hr
      cases r with
      | nested s' => exact inner s' hr
      | type | list | oneOf | callback | ignore => trivial
    refine Rule.every_nested_iff.2 ⟨built.field key added, fun f hf => ?_⟩
    rcases List.mem_append.1 hf with old | new
    · exact ih.field (List.mem_filter.1 old).1
    · obtain rfl : f = (key, rule) := by simpa using new
      exact added
  | withDefault key value built ih =>
    exact Rule.every_nested_iff.2 ⟨built.withDefault key value, fun _ hf => ih.field hf⟩
  | withMandatory keys built ih =>
    exact Rule.every_nested_iff.2 ⟨built.withMandatory keys, fun _ hf => ih.field hf⟩
  | merge _ _ ihu ihb =>
    have := Rule.every_mergeOver (P := Rule.Built) Built.merge ihu ihb
    rwa [Rule.mergeOver] at this
  | @addDefaults s defaults built ih =>
    refine Rule.every_nested_iff.2 ⟨built.addDefaults defaults, fun f hf => ?_⟩
    rw [fields_addDefaults] at hf
    exact ih.field hf
  | @addMandatory s keys built ih =>
    refine Rule.every_nested_iff.2 ⟨built.addMandatory keys, fun f hf => ?_⟩
    rw [fields_addMandatory] at hf
    exact ih.field hf

/-! ## Building by names

The steps that take a name make a symbol of it first; which symbols exist already does not matter. -/

/-- The builder keeps schemas built: its steps intern a name and then add to the schema. -/
theorem Built.field_symbol {s : Schema} (h : s.Built) (name : String) {r : Rule}
    (hr : r.Every Rule.Built) (session : Session) : ((s.field name r).run session).1.Built :=
  h.field _ hr

theorem Built.defaultValue {s : Schema} (h : s.Built) (name : String) (value : Term)
    (session : Session) : ((s.defaultValue name value).run session).1.Built :=
  h.withDefault _ value

theorem Built.mandatoryNames {s : Schema} (h : s.Built) (names : List String) (session : Session) :
    ((s.mandatoryNames names).run session).1.Built :=
  h.withMandatory _

end Schema

end Conform
