import Conform.Proofs.Level.Names
import Conform.Proofs.Load.Atomicity
import Conform.Proofs.Schema.Conformance
import Conform.Proofs.Term.Decoding

/-!
# The store and the output

A name may be accepted more than once: a YAML mapping may have the key `1` twice, as a number and as
a text, callbacks may rename fields or replace all that was accepted, and a default comes in where a
field was renamed away. The output then answers with the first value of the name, and the store, where
each value replaces the one before, with the last. They agree on a name that is accepted once, which
all names are where callbacks leave the names alone and the document gives each name once, as a JSON
document does.
-/

namespace Conform

/-! ## First and last -/

/-- The last accepted value under a key of this name. -/
def Output.last? (o : Output) (name : String) : Option Term :=
  Term.lookup o.accepted.reverse name

/-- What is found from the end stands in front of pairs of other names. -/
theorem Output.exists_last {out : Output} {q : Key × Term} (hq : q ∈ out.accepted) :
    ∃ before p after, out.accepted = before ++ p :: after ∧ p.1.name = q.1.name ∧
      (∀ r ∈ after, r.1.name ≠ p.1.name) ∧ out.last? q.1.name = some p.2 := by
  have found : (out.accepted.reverse.find? fun p => p.1.name == q.1.name).isSome :=
    List.find?_isSome.2 ⟨q, List.mem_reverse.2 hq, by simp⟩
  obtain ⟨p, hp⟩ := Option.isSome_iff_exists.1 found
  obtain ⟨name, behind, before, split, other⟩ := List.find?_eq_some_iff_append.1 hp
  have same : p.1.name = q.1.name := by simpa using name
  refine ⟨before.reverse, p, behind.reverse, ?_, same, ?_, ?_⟩
  · simpa using congrArg List.reverse split
  · intro r hr
    simpa [same] using other r (List.mem_reverse.1 hr)
  · rw [last?, Term.lookup, hp, Option.map_some]

/-! ## After loading -/

/-- Under the name of an accepted pair the store holds the last accepted value. -/
theorem Loaded.Publishes.get?_eq_last {r : Loaded} {options : LoadOptions} {s : Store}
    (h : r.Publishes options s) {out : Output} (ok : r.result = .ok out) {q : Key × Term}
    (hq : q ∈ out.accepted) :
    r.store.get? ⟨options.owner, options.scope, q.1.name⟩ = out.last? q.1.name := by
  obtain ⟨before, p, after, split, same, other, last⟩ := Output.exists_last hq
  rw [last, ← same]
  exact h.stored out ok before p after split other

/-- The pairs that a text stands for bear the name once at most. -/
def Format.GivesOnce (format : Format) (text : String) (session : Session) (name : String) : Prop :=
  ∀ term session' pairs, (format.decode text).run session = (.ok term, session') →
    term.pairs? = some pairs → countNamed pairs name ≤ 1

/-- JSON input names a member once, by `setMember` in the reader. A YAML mapping with keys `1` and
`"1"` does not. -/
theorem Format.givesOnce_json (text : String) (session : Session) (name : String) :
    Format.json.GivesOnce text session name := by
  intro term session' pairs decoded hp
  simp only [decode] at decoded
  cases read : Json.read? text with
  | none => rw [read] at decoded; cases decoded
  | some j =>
    rw [read] at decoded
    cases decoded
    exact countNamed_le_of_distinctNames (Term.distinctNames_of_json read hp) name

/-- Where callbacks leave the names alone, a name that the text gives once is accepted once. -/
theorem countNamed_of_load {schema : Schema} (keeps : schema.KeepsNames) {file : String}
    {format : Format} {text : String} {options : LoadOptions} {s : Store} {j : Journal} {out : Output}
    (ok : (load file format text schema options s j).result = .ok out) {name : String}
    (once : format.GivesOnce text j.session name) : countNamed out.accepted name ≤ 1 := by
  have ends := load_ends file format text schema options s j
  generalize load file format text schema options s j = r at ends ok
  cases ends with
  | malformed | invalid => cases ok
  | @published term session found j' decoded parsed =>
    cases ok
    cases hp : term.pairs? with
    | none =>
      rw [Schema.parse_of_none hp] at parsed
      cases parsed
    | some pairs =>
      have bound := Schema.countNamed_of_parse keeps hp parsed name
      have given := once term session pairs decoded hp
      omega

/-- **The store holds the last accepted value, the output gives the first.** They agree on a name that
is accepted once; so, where callbacks leave the names alone, on every name that the document's pairs
bear once at most, and after loading JSON on all of them. -/
theorem store_holds_last {format : Format} {text : String} {schema : Schema} {options : LoadOptions}
    {s : Store} {j : Journal} {out : Output}
    (ok : (loadText format text schema options s j).result = .ok out) {p : Key × Term}
    (hp : p ∈ out.accepted) :
    let held := (loadText format text schema options s j).store.get?
      ⟨options.owner, options.scope, p.1.name⟩
    held = out.last? p.1.name ∧
      (countNamed out.accepted p.1.name = 1 → held = out.get? p.1.name) ∧
      (schema.KeepsNames → format.GivesOnce text j.session p.1.name → held = out.get? p.1.name) ∧
      (schema.KeepsNames → format = .json → held = out.get? p.1.name) := by
  intro held
  have last : held = out.last? p.1.name :=
    (load_ends memoryName format text schema options s j).publishes.get?_eq_last ok hp
  have agree (once : countNamed out.accepted p.1.name ≤ 1) : held = out.get? p.1.name :=
    last.trans (Term.lookup_reverse once)
  refine ⟨last, fun once => agree (Nat.le_of_eq once), ?_, ?_⟩
  · exact fun keeps once => agree (countNamed_of_load keeps ok once)
  · rintro keeps rfl
    exact agree (countNamed_of_load keeps ok (Format.givesOnce_json text j.session p.1.name))

theorem keepsNames_backend : Schema.backend.KeepsNames := by
  intro f hf c asks
  simp only [Schema.backend, List.mem_cons, List.not_mem_nil, or_false] at hf
  rcases hf with rfl | rfl <;> cases asks

/-- A backend in JSON: the port, which comes from its default, is in the store and in the output. -/
theorem store_holds_last_backend :
    let loaded := loadText .json "\x7b\"host\": \"a\"\x7d" Schema.backend .default .empty default
    ∃ out p, loaded.result = .ok out ∧ p ∈ out.accepted ∧ p.1.name = "port" ∧
      loaded.store.get? ⟨"termcheck", "global", p.1.name⟩ = out.get? p.1.name := by
  intro loaded
  have names : loaded.result.toOption.map (·.accepted.map (·.1.name)) = some ["host", "port"] := by
    decide +kernel
  cases ok : loaded.result with
  | error => rw [ok] at names; cases names
  | ok out =>
    rw [ok] at names
    have accepted : out.accepted.map (·.1.name) = ["host", "port"] := Option.some.inj names
    have port : "port" ∈ out.accepted.map (·.1.name) := by
      rw [accepted]
      decide
    obtain ⟨p, hp, name⟩ := List.mem_map.1 port
    exact ⟨out, p, rfl, hp, name, (store_holds_last ok hp).2.2.2 keepsNames_backend rfl⟩

/-- A YAML document with the key `1` as a number and as a text: the output gives the first value, the
store holds the second. -/
theorem store_differs_from_output :
    let loaded := loadText .yaml "1: a\n\"1\": b\n" ⟨[(.text "1", .type .string)], [], none⟩ .default
      .empty default
    ∃ out p, loaded.result = .ok out ∧ p ∈ out.accepted ∧ p.1.name = "1" ∧
      loaded.store.get? ⟨"termcheck", "global", "1"⟩ ≠ out.get? "1" := by
  intro loaded
  have values : loaded.result.toOption.map (fun out => (out.accepted.map (·.1.name),
      (out.get? "1").bind Term.text?,
      (loaded.store.get? ⟨"termcheck", "global", "1"⟩).bind Term.text?))
        = some (["1", "1"], some "a", some "b") := by
    decide +kernel
  cases ok : loaded.result with
  | error => rw [ok] at values; cases values
  | ok out =>
    rw [ok] at values
    obtain ⟨names, values⟩ := Prod.mk.inj (Option.some.inj values)
    obtain ⟨given, held⟩ := Prod.mk.inj values
    have one : "1" ∈ out.accepted.map (·.1.name) := by
      rw [names]
      decide
    obtain ⟨p, hp, name⟩ := List.mem_map.1 one
    refine ⟨out, p, rfl, hp, name, fun same => ?_⟩
    rw [same, given] at held
    exact absurd held (by decide)

end Conform
