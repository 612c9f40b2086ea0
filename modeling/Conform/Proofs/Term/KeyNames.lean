import Conform.Proofs.Term.Exchange
import Conform.Proofs.Term.Formats
import Conform.Proofs.Term.KeyFaults
import Conform.Proofs.Yaml.KeyText
import Mathlib.Data.List.Nodup

/-!
# Names of maps

A mapping becomes a map that has a pair for each of its pairs, in their order, under the texts of their keys.
Its keys are told apart as values, and its names as texts. So a name comes twice only where a string among
the keys spells a number or a truth value among them; nothing is merged then, and the map has both pairs.
From JSON there are no such keys.
-/

namespace Conform

namespace Yaml

/-- The keys of a mapping are different values. -/
def KeysApart (pairs : List (Yaml × Yaml)) : Prop :=
  pairs.Pairwise fun p q => same p.1 q.1 = false

/-- No string among the keys spells a number or a truth value among them. -/
def Unambiguous (pairs : List (Yaml × Yaml)) : Prop :=
  ∀ p ∈ pairs, p.1.isLiteral = true →
    ∀ q ∈ pairs, ∀ name, q.1 = .string name → Term.keyOfYaml p.1 ≠ .ok name

/-- Of different keys that spell names, the names are distinct if none of them is ambiguous. -/
theorem nodup_names_iff {pairs : List (Yaml × Yaml)} (apart : KeysApart pairs)
    (named : ∀ p ∈ pairs, ∃ name, Term.keyOfYaml p.1 = .ok name) :
    (pairs.map fun p => Term.keyOfYaml p.1).Nodup ↔ Unambiguous pairs := by
  constructor
  · intro distinct p hp literal q hq name string spells
    have same : Term.keyOfYaml p.1 = Term.keyOfYaml q.1 := by
      rw [spells, string, Term.keyOfYaml]
    obtain rfl := List.inj_on_of_nodup_map distinct hp hq same
    rw [string] at literal
    cases literal
  · intro unambiguous
    rw [List.nodup_iff_pairwise_ne, List.pairwise_map]
    refine apart.imp_of_mem fun {p q} hp hq different same => ?_
    obtain ⟨name, hname⟩ := named p hp
    rcases spelled_of_same_name hname (same ▸ hname) different with ⟨literal, string⟩ | ⟨literal, string⟩
    · exact unambiguous p hp literal q hq name string hname
    · exact unambiguous q hq literal p hp name string (same ▸ hname)

end Yaml

namespace Term

/-! ## From mappings to maps -/

/-- A property holds of the names of a map, as they are spelled. -/
def Spelled (P : List (Except KeyFault String) → Prop) : Term → Prop
  | .map pairs => P (pairs.map fun p => .ok p.1.name)
  | _ => True

/-- The property holds of the texts of the keys. -/
def Spells (P : List (Except KeyFault String) → Prop) (pairs : List (Yaml × Yaml)) : Prop :=
  P (pairs.map fun p => keyOfYaml p.1)

section Spelled

variable {P : List (Except KeyFault String) → Prop}

theorem keyOfYaml_of_run {k : Yaml} {s s' : Session} {name : String}
    (h : (keyOfYaml k : ExceptT KeyFault Creating String) s = (.ok name, s')) : keyOfYaml k = .ok name := by
  cases spelled : keyOfYaml k with
  | ok given =>
    rw [spelled] at h
    cases h
    rfl
  | error fault =>
    rw [spelled] at h
    cases h

theorem spelled_ofInteger (i : Int) : (ofInteger i).Every (Spelled P) := by
  unfold ofInteger
  split <;> simp [Spelled]

mutual

/-- What holds of the names of all maps is what holds of the texts of the keys of all mappings. -/
theorem spelled_ofYaml_iff {v : Yaml} {t : Term} {s s' : Session} (h : ofYaml v s = (.ok t, s')) :
    t.Every (Spelled P) ↔ v.EachMapping (Spells P) := by
  cases v with
  | sequence items =>
    rw [ofYaml] at h
    obtain ⟨ts, s₁, items, last⟩ := Run.bind_eq_ok.1 h
    cases last
    rw [every_list_iff, Yaml.eachMapping_sequence_iff, ← spelled_itemsOfYaml_iff items]
    exact and_iff_right trivial
  | mapping pairs =>
    rw [ofYaml] at h
    obtain ⟨ps, s₁, pairs, last⟩ := Run.bind_eq_ok.1 h
    cases last
    obtain ⟨names, values⟩ := spelled_pairsOfYaml_iff pairs
    rw [every_map_iff, Yaml.eachMapping_mapping_iff, ← values, Spells, names]
    rfl
  | tagged tag value =>
    rw [ofYaml] at h
    rw [Yaml.eachMapping_tagged_iff]
    exact spelled_ofYaml_iff h
  | integer i =>
    cases h
    exact iff_of_true (spelled_ofInteger i) (by simp)
  | null | boolean | float | string =>
    cases h
    exact iff_of_true (by simp [Spelled]) (by simp)

/-- What holds of the names of every map in decoded items holds of the spellings in every mapping of
the YAML. -/
theorem spelled_itemsOfYaml_iff {vs : List Yaml} {ts : List Term} {s s' : Session}
    (h : itemsOfYaml vs s = (.ok ts, s')) :
    (∀ t ∈ ts, t.Every (Spelled P)) ↔ ∀ v ∈ vs, v.EachMapping (Spells P) := by
  cases vs with
  | nil =>
    cases h
    simp
  | cons v vs =>
    rw [itemsOfYaml] at h
    obtain ⟨t, s₁, first, h⟩ := Run.bind_eq_ok.1 h
    obtain ⟨ts, s₂, rest, last⟩ := Run.bind_eq_ok.1 h
    cases last
    rw [List.forall_mem_cons, List.forall_mem_cons, spelled_ofYaml_iff first,
      spelled_itemsOfYaml_iff rest]

theorem spelled_pairsOfYaml_iff {ps : List (Yaml × Yaml)} {pairs : Pairs} {s s' : Session}
    (h : pairsOfYaml ps s = (.ok pairs, s')) :
    ps.map (fun p => keyOfYaml p.1) = pairs.map (fun p => .ok p.1.name) ∧
      ((∀ p ∈ pairs, p.2.Every (Spelled P)) ↔ ∀ p ∈ ps, p.2.EachMapping (Spells P)) := by
  cases ps with
  | nil =>
    cases h
    simp
  | cons p ps =>
    rw [pairsOfYaml] at h
    obtain ⟨key, s₁, named, h⟩ := Run.bind_eq_ok.1 h
    obtain ⟨t, s₂, first, h⟩ := Run.bind_eq_ok.1 h
    obtain ⟨rest, s₃, others, last⟩ := Run.bind_eq_ok.1 h
    cases last
    obtain ⟨names, values⟩ := spelled_pairsOfYaml_iff others
    rw [List.forall_mem_cons, List.forall_mem_cons, List.map_cons, List.map_cons, names,
      keyOfYaml_of_run named, spelled_ofYaml_iff first, values]
    exact ⟨rfl, Iff.rfl⟩

end

end Spelled

section OfYaml

variable {v : Yaml} {t : Term} {s s' : Session} (ok : ofYaml v s = (.ok t, s'))

/-- A mapping and a map have the same names, in the same order. -/
def SameNames (ps : List (Yaml × Yaml)) (pairs : Pairs) : Prop :=
  ps.map (fun p => keyOfYaml p.1) = pairs.map fun p => .ok p.1.name

include ok

/-- Every map comes from a mapping. -/
theorem exists_mapping {pairs : Pairs} (within : Within (.map pairs) t) :
    ∃ ps, Yaml.Inside (.mapping ps) v ∧ SameNames ps pairs := by
  let P (names : List (Except KeyFault String)) : Prop :=
    ∃ ps, Yaml.Inside (.mapping ps) v ∧ ps.map (fun p => keyOfYaml p.1) = names
  have reached : v.EachMapping (Spells P) := fun ps inside => ⟨ps, inside, rfl⟩
  exact (spelled_ofYaml_iff ok).2 reached _ within

/-- Every mapping that is reached becomes a map. -/
theorem exists_map {ps : List (Yaml × Yaml)} (inside : Yaml.Inside (.mapping ps) v) :
    ∃ pairs, Within (.map pairs) t ∧ SameNames ps pairs := by
  by_contra none
  have others : t.Every (Spelled (ps.map (fun p => keyOfYaml p.1) ≠ ·)) := by
    intro t' within
    cases t' with
    | map pairs => exact fun same => none ⟨pairs, within, same⟩
    | _ => trivial
  exact (spelled_ofYaml_iff ok).1 others ps inside rfl

/-- All keys of a value that has become a term spell names. -/
theorem named_of_ofYaml : v.EachMapping fun ps => ∀ p ∈ ps, ∃ name, keyOfYaml p.1 = .ok name := by
  intro ps inside p hp
  obtain ⟨pairs, -, same⟩ := exists_map ok inside
  have spelled : keyOfYaml p.1 ∈ pairs.map fun p => .ok p.1.name := same ▸ List.mem_map_of_mem hp
  obtain ⟨q, -, name⟩ := List.mem_map.1 spelled
  exact ⟨q.1.name, name.symm⟩

end OfYaml

/-! ## Names that come twice -/

/-- A map names each key once iff the list of its names is without repeats. -/
theorem namedOnce_iff {t : Term} : t.NamedOnce ↔ t.Spelled List.Nodup := by
  cases t with
  | map pairs =>
    have spelled := List.nodup_map_iff (l := pairs.map (·.1.name)) (fun a b => Except.ok.inj (ε := KeyFault))
    rw [List.map_map] at spelled
    exact spelled.symm
  | _ => rfl

/-- A decoded term has a name twice in some map iff a mapping spells two keys alike. -/
theorem every_namedOnce_ofYaml_iff {v : Yaml} {t : Term} {s s' : Session} (h : ofYaml v s = (.ok t, s')) :
    t.Every NamedOnce ↔ v.EachMapping (Spells List.Nodup) := by
  rw [← spelled_ofYaml_iff h]
  exact forall₂_congr fun t' _ => namedOnce_iff

/-- The keys of JSON values are strings, and so different names if they are different. -/
theorem nodup_names_ofJson {j : Json} (h : j.WellFormed) :
    (Yaml.ofJson j).EachMapping (Spells List.Nodup) := by
  induction h with
  | array _ ih =>
    rw [Yaml.ofJson, Yaml.eachMapping_sequence_iff, Yaml.ofJsonItems_eq_map]
    exact List.forall_mem_map.2 ih
  | object distinct _ ih =>
    rw [Yaml.ofJson, Yaml.eachMapping_mapping_iff, Yaml.ofJsonMembers_eq_map]
    refine ⟨?_, List.forall_mem_map.2 ih⟩
    have spelled := distinct.map (fun a b => Except.ok.inj (ε := KeyFault))
    rw [List.map_map] at spelled
    rw [Spells, List.map_map]
    exact spelled
  | null | boolean | integer | float | string => simp [Yaml.ofJson]

/-- **A name comes twice only where a string spells another key.** Every map of a term that a YAML value
has become has the names of one of its mappings, a pair for each pair and in their order, and every mapping
has such a map. If the keys of each mapping are different values, then the names of all maps are distinct
if and only if in no mapping a string is the text of a number or a truth value beside it. From JSON they
always are. -/
theorem names_distinct_unless_spelled :
    (∀ {v : Yaml} {t : Term} {s s' : Session}, ofYaml v s = (.ok t, s') →
      (∀ pairs, Within (.map pairs) t → ∃ ps, Yaml.Inside (.mapping ps) v ∧ SameNames ps pairs) ∧
      (∀ ps, Yaml.Inside (.mapping ps) v → ∃ pairs, Within (.map pairs) t ∧ SameNames ps pairs) ∧
      (v.EachMapping Yaml.KeysApart → (t.Every NamedOnce ↔ v.EachMapping Yaml.Unambiguous))) ∧
    ∀ {j : Json}, j.WellFormed → ∀ s, (ofJson j s).1.Every NamedOnce := by
  refine ⟨fun {v t s s'} ok => ⟨?_, ?_, fun apart => ?_⟩, fun {j} formed s => ?_⟩
  · exact fun pairs within => exists_mapping ok within
  · exact fun ps inside => exists_map ok inside
  · rw [every_namedOnce_ofYaml_iff ok]
    exact forall₂_congr fun ps inside =>
      Yaml.nodup_names_iff (apart ps inside) (named_of_ofYaml ok ps inside)
  · have ok := likewise_ofYaml_ofJson j s
    exact (every_namedOnce_ofYaml_iff ok).2 (nodup_names_ofJson formed)

/-- Ports under an integer, a float and a truth value, which has a mapping with a string for a key. -/
def ports : Yaml :=
  .mapping [(.integer 80, .string "http"), (.float ⟨0x4054000000000000⟩, .string "half"),
    (.boolean true, .mapping [(.string "true", .string "tls")])]

def portsTerm : Term :=
  .map [(.text "80", .string "http"), (.text "80.0", .string "half"),
    (.text "true", .map [(.text "true", .string "tls")])]

/-- The names are distinct, since the string stands in another mapping than the truth value. -/
theorem names_distinct_unless_spelled_ports :
    ofYaml ports .start = (.ok portsTerm, .start) ∧ ports.EachMapping Yaml.KeysApart ∧
      ports.EachMapping Yaml.Unambiguous ∧ portsTerm.Every NamedOnce ∧
      Json.WellFormed (.object [("80", .null)]) ∧
      (ofJson (.object [("80", .null)]) .start).1.Every NamedOnce := by
  have text : Yaml.floatText ⟨0x4054000000000000⟩ = "80.0" := by decide +kernel
  have ok : ofYaml ports .start = (.ok portsTerm, .start) := by
    have ten : keyOfYaml (.float ⟨0x4054000000000000⟩) = .ok "80.0" := congrArg Except.ok text
    simp only [ports, ofYaml, pairsOfYaml, ten]
    rfl
  have apart : ports.EachMapping Yaml.KeysApart := by
    simp [ports, Yaml.KeysApart, Yaml.same]
  have unambiguous : ports.EachMapping Yaml.Unambiguous := by
    simp [ports, Yaml.Unambiguous, Yaml.isLiteral]
  have formed : Json.WellFormed (.object [("80", .null)]) :=
    .object (List.nodup_singleton _) (List.forall_mem_singleton.2 .null)
  exact ⟨ok, apart, unambiguous, ((names_distinct_unless_spelled.1 ok).2.2 apart).2 unambiguous, formed,
    names_distinct_unless_spelled.2 formed .start⟩

/-- An integer and the string that spells it are different keys and become one name. -/
theorem integer_and_its_text_collide :
    let v : Yaml := .mapping [(.integer 1, .string "a"), (.string "1", .string "b")]
    let t : Term := .map [(.text "1", .string "a"), (.text "1", .string "b")]
    v.EachMapping Yaml.KeysApart ∧ ofYaml v .start = (.ok t, .start) ∧ ¬t.Every NamedOnce := by
  refine ⟨?_, rfl, ?_⟩
  · simp [Yaml.KeysApart, Yaml.same]
  · simp [NamedOnce, DistinctNames, Key.name]

end Term

end Conform
