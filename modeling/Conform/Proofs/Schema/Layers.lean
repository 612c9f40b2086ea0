import Conform.Proofs.Schema.Overlay
import Conform.Proofs.Term.Written

/-!
# Several layers

A schema laid over itself is itself, and three schemas laid over each other may be grouped either way. Both
are laws of tables: the keys of a table and what stands under each name settle the table, and both are known
for tables laid over each other. Grouping goes wrong in one shape only. Where the top and the bottom have
nested schemas at a place and the middle has something else there, the middle hides the bottom from the top
if it is laid over the bottom first, and is itself replaced if the top is laid over it first.
-/

namespace Conform

/-! ## Tables -/

section Tables

variable {α : Type} {merge : α → α → α} {a b c table table' : List (Key × α)}

/-- The keys of a table and the values by name settle the table. -/
theorem eq_of_valueNamed? (distinct : DistinctNames table) (keys : table.map (·.1) = table'.map (·.1))
    (values : ∀ name, valueNamed? table name = valueNamed? table' name) : table = table' := by
  induction table generalizing table' with
  | nil => exact (List.map_eq_nil_iff.1 keys.symm).symm
  | cons e rest ih =>
    cases table' with
    | nil => cases keys
    | cons e' rest' =>
      obtain ⟨head, tail⟩ := List.cons.inj keys
      have first := values e.1.name
      rw [valueNamed?_cons, valueNamed?_cons, if_pos rfl, if_pos (congrArg Key.name head.symm)] at first
      have same : e = e' := Prod.ext head (Option.some.inj first)
      subst same
      refine congrArg (e :: ·) (ih distinct.tail tail fun name => ?_)
      by_cases h : e.1.name = name
      · -- No other entry bears the name of the first one, here or there.
        subst h
        have alone' : ∀ f ∈ rest', f.1.name ≠ e.1.name := by
          intro f hf
          have key : f.1 ∈ rest.map (·.1) := tail ▸ List.mem_map_of_mem hf
          obtain ⟨g, hg, same⟩ := List.mem_map.1 key
          exact same ▸ distinct.head g hg
        rw [valueNamed?_eq_none_iff.2 distinct.head, valueNamed?_eq_none_iff.2 alone']
      · have behind := values name
        rwa [valueNamed?_cons, valueNamed?_cons, if_neg h, if_neg h] at behind

/-- A table over itself is the table, if each of its values is. -/
theorem layOver_self (distinct : DistinctNames table)
    (same : ∀ e ∈ table, merge e.2 e.2 = e.2) : layOver merge table table = table := by
  refine eq_of_valueNamed? (distinctNames_layOver distinct table) ?_ fun name => ?_
  · have none : newKeys table table = [] := by
      refine List.filter_eq_nil_iff.2 fun key hkey absent => ?_
      obtain ⟨e, he, rfl⟩ := List.mem_map.1 hkey
      exact valueNamed?_eq_none_iff.1 (Option.isNone_iff_eq_none.1 absent) e he rfl
    rw [keys_layOver merge distinct, none, List.append_nil]
  · rw [valueNamed?_layOver merge distinct]
    cases h : valueNamed? table name with
    | none => rfl
    | some v =>
      obtain ⟨key, -, member⟩ := (valueNamed?_eq_some_iff distinct).1 h
      exact congrArg some (same _ member)

/-- The new keys of two layers: those of the lower one, and those of the upper one that it does not have. -/
theorem newKeys_layOver (distinct : DistinctNames a) (distinct' : DistinctNames b) :
    newKeys (layOver merge a b) c = newKeys b c ++ newKeys a (layOver merge b c) := by
  have absent (key : Key) : ((valueNamed? (layOver merge b c) key.name).isNone : Bool)
      = ((valueNamed? c key.name).isNone && (valueNamed? b key.name).isNone) := by
    rw [valueNamed?_layOver merge distinct']
    cases valueNamed? b key.name <;> cases valueNamed? c key.name <;> rfl
  unfold newKeys
  simp only [keys_layOver merge distinct, List.filter_append, newKeys, List.filter_filter, absent]

/-- Three layers may be grouped either way if this is so for the values under each name of all three. -/
theorem layOver_assoc (ha : DistinctNames a) (hb : DistinctNames b) (hc : DistinctNames c)
    (assoc : ∀ name x y z, valueNamed? a name = some x → valueNamed? b name = some y →
      valueNamed? c name = some z → merge x (merge y z) = merge (merge x y) z) :
    layOver merge a (layOver merge b c) = layOver merge (layOver merge a b) c := by
  have hab : DistinctNames (layOver merge a b) := distinctNames_layOver hb a
  refine eq_of_valueNamed? (distinctNames_layOver (distinctNames_layOver hc b) a) ?_ fun name => ?_
  · rw [keys_layOver merge ha, keys_layOver merge hb, keys_layOver merge hab, newKeys_layOver ha hb,
      List.append_assoc]
  · rw [valueNamed?_layOver merge ha, valueNamed?_layOver merge hb, valueNamed?_layOver merge hab,
      valueNamed?_layOver merge ha]
    cases hx : valueNamed? a name with
    | none => cases valueNamed? b name <;> cases valueNamed? c name <;> rfl
    | some x =>
      cases hy : valueNamed? b name with
      | none => cases valueNamed? c name <;> rfl
      | some y =>
        cases hz : valueNamed? c name with
        | none => rfl
        | some z => exact congrArg some (assoc name x y z hx hy hz)

end Tables

/-- Where two values are joined only if both open up, and otherwise the upper one replaces the lower, three
may be grouped either way, as long as the middle one opens up if the other two do. -/
theorem join_assoc {α : Type} {join : α → α → α} {Opens : α → Prop}
    (replaces : ∀ u b, ¬(Opens u ∧ Opens b) → join u b = u) {a b c : α}
    (bridged : Opens a → Opens c → Opens b)
    (all : Opens a → Opens b → Opens c → join a (join b c) = join (join a b) c) :
    join a (join b c) = join (join a b) c := by
  by_cases top : Opens a
  · by_cases bottom : Opens c
    · exact all top (bridged top bottom) bottom
    · rw [replaces b c fun both => bottom both.2, replaces _ c fun both => bottom both.2]
  · have replaced (x : α) : join a x = a := replaces a x fun both => top both.1
    rw [replaced, replaced, replaced]

/-! ## Terms -/

namespace Term

/-- What these names lead to, from map to map. -/
def at? (t : Term) : List String → Option Term
  | [] => some t
  | name :: names => (t.get? name).bind fun value => value.at? names

/-- Wherever the first and the last have maps, the middle one has a map too, or nothing. -/
def Bridged (a b c : Term) : Prop :=
  ∀ names as cs, a.at? names = some (.map as) → c.at? names = some (.map cs) →
    ∀ t, b.at? names = some t → ∃ bs, t = .map bs

theorem at?_map_cons (pairs : Pairs) (name : String) (names : List String) :
    (Term.map pairs).at? (name :: names) = (valueNamed? pairs name).bind fun value => value.at? names :=
  rfl

theorem at?_cons_of_not_map {t : Term} (h : ∀ pairs, t ≠ .map pairs) (name : String)
    (names : List String) : t.at? (name :: names) = none := by
  cases t with
  | map pairs => exact absurd rfl (h pairs)
  | _ => rfl

/-- A map between maps bridges them if its values bridge theirs. -/
theorem bridged_map_iff {as bs cs : Pairs} :
    (Term.map as).Bridged (.map bs) (.map cs) ↔ ∀ name x y z, valueNamed? as name = some x →
      valueNamed? bs name = some y → valueNamed? cs name = some z → x.Bridged y z := by
  constructor
  · intro h name x y z hx hy hz names us ws hu hw t ht
    refine h (name :: names) us ws ?_ ?_ t ?_ <;> rw [at?_map_cons]
    · rw [hx, Option.bind_some, hu]
    · rw [hz, Option.bind_some, hw]
    · rw [hy, Option.bind_some, ht]
  · intro values names us ws hu hw t ht
    cases names with
    | nil => exact ⟨bs, (Option.some.inj ht).symm⟩
    | cons name names =>
      obtain ⟨x, hx, hu⟩ := Option.bind_eq_some_iff.1 hu
      obtain ⟨y, hy, ht⟩ := Option.bind_eq_some_iff.1 ht
      obtain ⟨z, hz, hw⟩ := Option.bind_eq_some_iff.1 hw
      exact values name x y z hx hy hz names us ws hu hw t ht

/-- What is no map bridges anything: nothing below it is merged. -/
theorem bridged_of_not_map {a : Term} (h : ∀ pairs, a ≠ .map pairs) (b c : Term) : a.Bridged b c := by
  intro names us ws hu
  cases names with
  | nil => exact absurd (Option.some.inj hu) (h us)
  | cons name names =>
    rw [at?_cons_of_not_map h] at hu
    cases hu

/-- Maps are merged as tables. -/
theorem mergeOver_map (us bs : Pairs) :
    (Term.map us).mergeOver (.map bs) = .map (layOver mergeOver us bs) := by
  rw [mergeOver, mergePairs_eq_layOver]

/-- A term that is laid over another replaces it, unless both are maps. -/
theorem mergeOver_replaces (u b : Term) (h : ¬((∃ us, u = .map us) ∧ ∃ bs, b = .map bs)) :
    u.mergeOver b = u :=
  mergeOver_of_not_maps fun us bs hu hb => h ⟨⟨us, hu⟩, ⟨bs, hb⟩⟩

/-- What is under a name of a map is in the map. -/
theorem Every.valueNamed {p : Term → Prop} {pairs : Pairs} (h : (Term.map pairs).Every p) {name : String}
    {v : Term} (hv : valueNamed? pairs name = some v) : v.Every p := by
  obtain ⟨pair, found, rfl⟩ := Option.map_eq_some_iff.1 hv
  exact h.value (List.mem_of_find?_eq_some found)

/-- A term whose maps name each key once is unchanged by itself, by induction on the term. -/
theorem mergeOver_self {t : Term} (once : t.Every NamedOnce) : t.mergeOver t = t := by
  induction t using Term.induct with
  | plain t _ map _ =>
    refine mergeOver_of_not_maps fun us _ same => ?_
    subst same
    exact absurd rfl map
  | tuple | list => exact mergeOver_of_not_maps (by simp)
  | map pairs ih =>
    rw [mergeOver_map, layOver_self once.here fun p hp => ih p hp (once.value hp)]

section Grouped

variable {a b c : Term} (ha : a.Every NamedOnce) (hb : b.Every NamedOnce) (hc : c.Every NamedOnce)
  (bridged : a.Bridged b c)
include ha hb hc bridged

/-- Terms may be grouped either way if, should they be maps, their values may. -/
theorem mergeOver_assoc_of_values (values : ∀ as bs cs name x y z, a = .map as → b = .map bs →
      c = .map cs → valueNamed? as name = some x → valueNamed? bs name = some y →
      valueNamed? cs name = some z → x.mergeOver (y.mergeOver z) = (x.mergeOver y).mergeOver z) :
    a.mergeOver (b.mergeOver c) = (a.mergeOver b).mergeOver c := by
  have middle : (∃ as, a = .map as) → (∃ cs, c = .map cs) → ∃ bs, b = .map bs := by
    rintro ⟨as, top⟩ ⟨cs, bottom⟩
    exact bridged [] as cs (congrArg some top) (congrArg some bottom) b rfl
  refine join_assoc mergeOver_replaces middle ?_
  rintro ⟨as, rfl⟩ ⟨bs, rfl⟩ ⟨cs, rfl⟩
  simp only [mergeOver_map]
  refine congrArg Term.map (layOver_assoc ha.here hb.here hc.here ?_)
  exact fun name x y z => values as bs cs name x y z rfl rfl rfl

/-- Terms may be grouped either way if the middle one bridges the others. -/
theorem mergeOver_assoc : a.mergeOver (b.mergeOver c) = (a.mergeOver b).mergeOver c := by
  induction a using Term.induct generalizing b c with
  | map as ih =>
    refine mergeOver_assoc_of_values ha hb hc bridged ?_
    rintro _ bs cs name x y z ⟨⟩ rfl rfl hx hy hz
    obtain ⟨pair, found, rfl⟩ := Option.map_eq_some_iff.1 hx
    exact ih pair (List.mem_of_find?_eq_some found) (ha.valueNamed hx) (hb.valueNamed hy)
      (hc.valueNamed hz) (bridged_map_iff.1 bridged name _ y z hx hy hz)
  | plain a _ map _ =>
    refine mergeOver_assoc_of_values ha hb hc bridged ?_
    rintro as _ _ _ _ _ _ rfl
    exact absurd rfl map
  | tuple | list => exact mergeOver_assoc_of_values ha hb hc bridged (by simp)

end Grouped

end Term

/-! ## Rules and schemas -/

/-- A rule that is no nested schema, or one in whose defaults no map bears a name twice. -/
def Rule.DefaultsNamedOnce : Rule → Prop
  | .nested s => ∀ d ∈ s.defaults, d.2.Every Term.NamedOnce
  | _ => True

/-- What these names lead to, from nested schema to nested schema. -/
def Rule.at? (r : Rule) : List String → Option Rule
  | [] => some r
  | name :: names =>
    match r with
    | .nested s => (valueNamed? s.fields name).bind fun rule => rule.at? names
    | _ => none

/-- Wherever the first and the last have nested schemas, the middle one has a nested schema too, or
nothing; and wherever all three have them, the same holds of the maps among the defaults. -/
structure Rule.Bridged (a b c : Rule) : Prop where
  nested : ∀ names sa sc, a.at? names = some (.nested sa) → c.at? names = some (.nested sc) →
    ∀ r, b.at? names = some r → ∃ sb, r = .nested sb
  defaults : ∀ names sa sb sc, a.at? names = some (.nested sa) → b.at? names = some (.nested sb) →
    c.at? names = some (.nested sc) →
    (Term.map sa.defaults).Bridged (.map sb.defaults) (.map sc.defaults)

namespace Rule

theorem at?_nested_cons (s : Schema) (name : String) (names : List String) :
    (Rule.nested s).at? (name :: names) = (valueNamed? s.fields name).bind fun r => r.at? names :=
  rfl

theorem at?_cons_of_not_nested {r : Rule} (h : ∀ s, r ≠ .nested s) (name : String)
    (names : List String) : r.at? (name :: names) = none := by
  cases r with
  | nested s => exact absurd rfl (h s)
  | _ => rfl

/-- A nested schema between nested schemas bridges them if its defaults and its rules bridge theirs. -/
theorem bridged_nested_iff {sa sb sc : Schema} :
    (Rule.nested sa).Bridged (.nested sb) (.nested sc) ↔
      (Term.map sa.defaults).Bridged (.map sb.defaults) (.map sc.defaults) ∧
      ∀ name x y z, valueNamed? sa.fields name = some x → valueNamed? sb.fields name = some y →
        valueNamed? sc.fields name = some z → x.Bridged y z := by
  constructor
  · intro h
    refine ⟨h.defaults [] sa sb sc rfl rfl rfl, fun name x y z hx hy hz => ?_⟩
    have below {s : Schema} {r : Rule} (hr : valueNamed? s.fields name = some r) (names : List String) :
        (Rule.nested s).at? (name :: names) = r.at? names := by
      rw [at?_nested_cons, hr, Option.bind_some]
    constructor
    · intro names ta tc ha hc r hr
      rw [← below hx] at ha
      rw [← below hy] at hr
      rw [← below hz] at hc
      exact h.nested (name :: names) ta tc ha hc r hr
    · intro names ta tb tc ha hb hc
      rw [← below hx] at ha
      rw [← below hy] at hb
      rw [← below hz] at hc
      exact h.defaults (name :: names) ta tb tc ha hb hc
  · rintro ⟨defaults, fields⟩
    constructor
    · intro names ta tc ha hc r hr
      cases names with
      | nil => exact ⟨sb, (Option.some.inj hr).symm⟩
      | cons name names =>
        obtain ⟨x, hx, ha⟩ := Option.bind_eq_some_iff.1 ha
        obtain ⟨y, hy, hr⟩ := Option.bind_eq_some_iff.1 hr
        obtain ⟨z, hz, hc⟩ := Option.bind_eq_some_iff.1 hc
        exact (fields name x y z hx hy hz).nested names ta tc ha hc r hr
    · intro names ta tb tc ha hb hc
      cases names with
      | nil =>
        cases ha
        cases hb
        cases hc
        exact defaults
      | cons name names =>
        obtain ⟨x, hx, ha⟩ := Option.bind_eq_some_iff.1 ha
        obtain ⟨y, hy, hb⟩ := Option.bind_eq_some_iff.1 hb
        obtain ⟨z, hz, hc⟩ := Option.bind_eq_some_iff.1 hc
        exact (fields name x y z hx hy hz).defaults names ta tb tc ha hb hc

theorem bridged_of_not_nested {a : Rule} (h : ∀ s, a ≠ .nested s) (b c : Rule) : a.Bridged b c := by
  have nowhere {names : List String} {s : Schema} : a.at? names ≠ some (.nested s) := by
    intro same
    cases names with
    | nil => exact h s (Option.some.inj same)
    | cons name names =>
      rw [at?_cons_of_not_nested h] at same
      cases same
  exact ⟨fun _ _ _ ha => absurd ha nowhere, fun _ _ _ _ ha => absurd ha nowhere⟩

theorem mergeOver_nested (u b : Schema) :
    (Rule.nested u).mergeOver (.nested b) = .nested (Schema.merge u b) := by
  rw [mergeOver]

/-- A rule that is laid over another replaces it, unless both are nested schemas. -/
theorem mergeOver_replaces (u b : Rule) (h : ¬((∃ su, u = .nested su) ∧ ∃ sb, b = .nested sb)) :
    u.mergeOver b = u :=
  mergeOver_of_not_nested fun su sb hu hb => h ⟨⟨su, hu⟩, ⟨sb, hb⟩⟩

theorem Every.fieldNamed {p : Rule → Prop} {s : Schema} (h : (Rule.nested s).Every p) {name : String}
    {r : Rule} (hr : valueNamed? s.fields name = some r) : r.Every p := by
  obtain ⟨field, found, rfl⟩ := Option.map_eq_some_iff.1 hr
  exact h.field (List.mem_of_find?_eq_some found)

end Rule

theorem Schema.eq_of_parts {s s' : Schema} (fields : s.fields = s'.fields)
    (defaults : s.defaults = s'.defaults) (mandatory : s.mandatory = s'.mandatory) : s = s' := by
  cases s
  cases s'
  simp_all

/-- A schema whose names are distinct, also those of each map in its defaults, at every depth. -/
structure Rule.Distinct (r : Rule) : Prop where
  wellNamed : r.Every Rule.WellNamed
  defaults : r.Every Rule.DefaultsNamedOnce

namespace Rule.Distinct

variable {s : Schema} (h : (Rule.nested s).Distinct)
include h

theorem field {f : Key × Rule} (hf : f ∈ s.fields) : f.2.Distinct :=
  ⟨h.wellNamed.field hf, h.defaults.field hf⟩

theorem fieldNamed {name : String} {r : Rule} (hr : valueNamed? s.fields name = some r) : r.Distinct :=
  ⟨h.wellNamed.fieldNamed hr, h.defaults.fieldNamed hr⟩

theorem level : s.Distinct :=
  h.wellNamed.here

theorem map : (Term.map s.defaults).Every Term.NamedOnce :=
  Term.every_map_iff.2 ⟨h.level.defaults, h.defaults.here⟩

end Rule.Distinct

namespace Rule

theorem mergeOver_self {r : Rule} (h : r.Distinct) : r.mergeOver r = r := by
  induction r using Rule.induct with
  | nested s ih =>
    rw [mergeOver_nested]
    refine congrArg Rule.nested (Schema.eq_of_parts ?_ ?_ ?_)
    · rw [Schema.fields_merge, layOver_self h.level.fields fun f hf => ih f hf (h.field hf)]
    · rw [Schema.defaults_merge]
      exact layOver_self h.level.defaults fun d hd => Term.mergeOver_self (h.map.value hd)
    · rw [Schema.mandatory_merge, Option.or_self]
  | type | list | oneOf | callback | ignore => exact mergeOver_of_not_nested (by simp)

section Grouped

variable {a b c : Rule} (ha : a.Distinct) (hb : b.Distinct) (hc : c.Distinct) (bridged : a.Bridged b c)
include ha hb hc bridged

/-- Rules may be grouped either way if, should they be nested schemas, the rules of their fields may. -/
theorem mergeOver_assoc_of_fields (fields : ∀ sa sb sc name x y z, a = .nested sa → b = .nested sb →
      c = .nested sc → valueNamed? sa.fields name = some x → valueNamed? sb.fields name = some y →
      valueNamed? sc.fields name = some z → x.mergeOver (y.mergeOver z) = (x.mergeOver y).mergeOver z) :
    a.mergeOver (b.mergeOver c) = (a.mergeOver b).mergeOver c := by
  have middle : (∃ sa, a = .nested sa) → (∃ sc, c = .nested sc) → ∃ sb, b = .nested sb := by
    rintro ⟨sa, top⟩ ⟨sc, bottom⟩
    exact bridged.nested [] sa sc (congrArg some top) (congrArg some bottom) b rfl
  refine join_assoc mergeOver_replaces middle ?_
  rintro ⟨sa, rfl⟩ ⟨sb, rfl⟩ ⟨sc, rfl⟩
  have defaults := Term.mergeOver_assoc ha.map hb.map hc.map (bridged_nested_iff.1 bridged).1
  simp only [Term.mergeOver_map, Term.map.injEq] at defaults
  simp only [mergeOver_nested]
  refine congrArg Rule.nested (Schema.eq_of_parts ?_ ?_ ?_)
  · simp only [Schema.fields_merge]
    exact layOver_assoc ha.level.fields hb.level.fields hc.level.fields
      fun name x y z => fields sa sb sc name x y z rfl rfl rfl
  · simp only [Schema.defaults_merge]
    exact defaults
  · simp only [Schema.mandatory_merge, Option.or_assoc]

/-- Rules may be grouped either way if the middle one bridges the others. -/
theorem mergeOver_assoc : a.mergeOver (b.mergeOver c) = (a.mergeOver b).mergeOver c := by
  induction a using Rule.induct generalizing b c with
  | nested sa ih =>
    refine mergeOver_assoc_of_fields ha hb hc bridged ?_
    rintro _ sb sc name x y z ⟨⟩ rfl rfl hx hy hz
    obtain ⟨field, found, rfl⟩ := Option.map_eq_some_iff.1 hx
    exact ih field (List.mem_of_find?_eq_some found) (ha.fieldNamed hx) (hb.fieldNamed hy)
      (hc.fieldNamed hz) ((bridged_nested_iff.1 bridged).2 name _ y z hx hy hz)
  | type | list | oneOf | callback | ignore =>
    exact mergeOver_assoc_of_fields ha hb hc bridged (by simp)

end Grouped

end Rule

namespace Schema

/-- **Layers may be grouped.** For schemas that can be built and in whose defaults no map bears a name
twice: a schema laid over itself is itself. Three of them laid over each other come to the same schema
either way, with its keys in the same order and of the same kinds, if the middle one has nothing but nested
schemas where the other two have nested schemas, and nothing but maps where they have maps among their
defaults. -/
theorem merge_self_and_assoc :
    (∀ s : Schema, s.Built → (Rule.nested s).Every Rule.DefaultsNamedOnce → merge s s = s) ∧
    ∀ a b c : Schema, a.Built → b.Built → c.Built → (Rule.nested a).Every Rule.DefaultsNamedOnce →
      (Rule.nested b).Every Rule.DefaultsNamedOnce → (Rule.nested c).Every Rule.DefaultsNamedOnce →
      (Rule.nested a).Bridged (.nested b) (.nested c) →
      merge a (merge b c) = merge (merge a b) c := by
  constructor
  · intro s built once
    have same := Rule.mergeOver_self ⟨built.wellNamed, once⟩
    rw [Rule.mergeOver_nested] at same
    exact Rule.nested.inj same
  · intro a b c ha hb hc onceA onceB onceC bridged
    have same := Rule.mergeOver_assoc ⟨ha.wellNamed, onceA⟩ ⟨hb.wellNamed, onceB⟩ ⟨hc.wellNamed, onceC⟩
      bridged
    simp only [Rule.mergeOver_nested] at same
    exact Rule.nested.inj same

/-- A layer of settings for a backend: limits by default, under keys of either kind. -/
def limited (key : Key) (limits : Pairs) : Schema :=
  ⟨[(key, .nested ⟨[(.text "limits", .type .map)], [(.text "limits", .map limits)], none⟩)], [], none⟩

theorem built_limited (key : Key) (limits : Pairs) : (limited key limits).Built := by
  have inner := Built.empty.field (.text "limits") (r := .type .map) (by simp [Rule.Built])
  have filled := inner.withDefault (.text "limits") (.map limits)
  exact Built.empty.field key filled.every

/-- Of two such layers the middle one has the same shape, so it bridges the others. -/
theorem bridged_limited (key key' key'' : Key) {as : Pairs} (plain : ∀ p ∈ as, ∀ pairs, p.2 ≠ .map pairs)
    (bs cs : Pairs) :
    (Rule.nested (limited key as)).Bridged (.nested (limited key' bs)) (.nested (limited key'' cs)) := by
  have only {α : Type} {k : Key} {v w : α} {name : String} (h : valueNamed? [(k, v)] name = some w) :
      v = w := by
    rw [valueNamed?_cons] at h
    split at h <;> cases h
    rfl
  have defaults : (Term.map []).Bridged (.map []) (.map []) :=
    Term.bridged_map_iff.2 (by simp [valueNamed?])
  refine Rule.bridged_nested_iff.2 ⟨defaults, fun _ _ _ _ hx hy hz => ?_⟩
  obtain rfl := only hx
  obtain rfl := only hy
  obtain rfl := only hz
  refine Rule.bridged_nested_iff.2 ⟨Term.bridged_map_iff.2 fun _ _ _ _ hx hy hz => ?_,
    fun _ _ _ _ hx _ _ => ?_⟩
  · obtain rfl := only hx
    obtain rfl := only hy
    obtain rfl := only hz
    refine Term.bridged_map_iff.2 fun name x y z hx _ _ => ?_
    obtain ⟨pair, found, rfl⟩ := Option.map_eq_some_iff.1 hx
    exact Term.bridged_of_not_map (plain pair (List.mem_of_find?_eq_some found)) y z
  · obtain rfl := only hx
    exact Rule.bridged_of_not_nested (by simp) _ _

/-- Keys keep the place and the kind that they have in the lowest layer with their name. -/
theorem merge_self_and_assoc_limited :
    let top := limited (.symbol ⟨"backend"⟩) [(.text "soft", .integer 2), (.text "idle", .integer 7)]
    let middle := limited (.text "backend") [(.symbol ⟨"hard"⟩, .integer 5), (.text "soft", .integer 1)]
    let bottom := limited (.text "backend") [(.text "hard", .integer 4), (.symbol ⟨"burst"⟩, .integer 9)]
    let merged := limited (.text "backend") [(.text "hard", .integer 5), (.symbol ⟨"burst"⟩, .integer 9),
      (.text "soft", .integer 2), (.text "idle", .integer 7)]
    top.Built ∧ middle.Built ∧ bottom.Built ∧ (Rule.nested top).Every Rule.DefaultsNamedOnce ∧
      (Rule.nested middle).Every Rule.DefaultsNamedOnce ∧
      (Rule.nested bottom).Every Rule.DefaultsNamedOnce ∧
      (Rule.nested top).Bridged (.nested middle) (.nested bottom) ∧ merge top top = top ∧
      merge top (merge middle bottom) = merged ∧ merge (merge top middle) bottom = merged := by
  intro top middle bottom merged
  have once (key k k' : Key) (i i' : Int64) (other : k.name ≠ k'.name) :
      (Rule.nested (limited key [(k, .integer i), (k', .integer i')])).Every Rule.DefaultsNamedOnce := by
    simp [limited, Rule.DefaultsNamedOnce, Term.NamedOnce, DistinctNames, other]
  have onceTop := once (.symbol ⟨"backend"⟩) (.text "soft") (.text "idle") 2 7 (by decide)
  have onceMiddle := once (.text "backend") (.symbol ⟨"hard"⟩) (.text "soft") 5 1 (by decide)
  have onceBottom := once (.text "backend") (.text "hard") (.symbol ⟨"burst"⟩) 4 9 (by decide)
  have bridged : (Rule.nested top).Bridged (.nested middle) (.nested bottom) :=
    bridged_limited _ _ _ (by simp) _ _
  obtain ⟨self, assoc⟩ := merge_self_and_assoc
  have grouped := assoc top middle bottom (built_limited _ _) (built_limited _ _) (built_limited _ _)
    onceTop onceMiddle onceBottom bridged
  exact ⟨built_limited _ _, built_limited _ _, built_limited _ _, onceTop, onceMiddle, onceBottom, bridged,
    self top (built_limited _ _) onceTop, rfl, grouped.symm.trans rfl⟩

end Schema

end Conform
