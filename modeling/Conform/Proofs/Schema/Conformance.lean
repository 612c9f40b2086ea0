import Conform.Proofs.Level.Settled
import Conform.Proofs.Level.Sources
import Conform.Proofs.ListRule
import Conform.Proofs.Tag.Canonical

/-!
# The output conforms to the schema

What a value of a rule looks like, said without the dispatchers, and that everything that comes out
of a call looks like that. The proof is by induction over rules; a level is taken apart into the
values that its pairs and defaults had and the rules that took them.
-/

namespace Conform

/-- A rule that is no callback. -/
def Rule.NoCallback : Rule → Prop
  | .callback _ => False
  | _ => True

theorem Rule.NoCallback.plain {r : Rule} (h : r.NoCallback) : r.Plain := by
  cases r with
  | callback => exact h.elim
  | type | list | oneOf | nested | ignore => trivial

/-- The values of a rule. An ignored field has none, and of those of a callback nothing is known. -/
inductive Rule.Conforms (symbols : SymbolTable) : Rule → Term → Prop where
  | type {tag : Tag} {t : Term} : tag.Canonical t → Conforms symbols (.type tag) t
  | list {d : Discipline} {inner : Rule} {items : List Term} :
    (∀ t ∈ items, Conforms symbols inner t) → ListRule.Arranged items d →
    Conforms symbols (.list d inner) (.list items)
  | oneOf {rules : List Rule} {r : Rule} {t : Term} :
    r ∈ rules → Conforms symbols r t → Conforms symbols (.oneOf rules) t
  | nested {s : Schema} {pairs : Pairs} :
    (∀ p ∈ pairs, ∃ r, s.ruleFor? symbols p.1 = some r) →
    (∀ p ∈ pairs, ∀ r, s.ruleFor? symbols p.1 = some r → Conforms symbols r p.2) →
    (∀ k ∈ s.mandatoryKeys, ∃ p ∈ pairs, p.1.name = k.name) →
    Conforms symbols (.nested s) (.map pairs)

namespace Schema

/-- The pairs of a settled level conform if the rules of its fields take conforming values. -/
theorem conforms_of_settled {s : Schema} (plain : (Rule.nested s).Every Rule.Plain) {l : Level}
    {j : Journal} (sound : ∀ f ∈ s.fields, ∀ key value taken,
      Accepts f.2.dispatch key value l j taken → f.2.Conforms j.session.symbols taken)
    {defaults pairs out : Pairs}
    (h : Account.Settled (s.alone l j) defaults s.mandatoryKeys pairs out) :
    (Rule.nested s).Conforms j.session.symbols (.map out) := by
  have each (q : Key × Term) (hq : q ∈ out) : ∃ r, s.ruleFor? j.session.symbols q.1 = some r ∧
      r.Conforms j.session.symbols q.2 := by
    obtain ⟨p, -, part, hpart, mem⟩ := h.source q hq
    obtain ⟨-, r, hr, taken⟩ := accepts_of_alone plain hpart mem
    obtain ⟨k, -, field⟩ := mem_of_ruleFor? hr
    exact ⟨r, hr, sound (k, r) field _ _ _ taken⟩
  refine .nested ?_ ?_ ?_
  · intro q hq
    obtain ⟨r, hr, -⟩ := each q hq
    exact ⟨r, hr⟩
  · intro q hq r hr
    obtain ⟨r', hr', conforms⟩ := each q hq
    rw [hr] at hr'
    exact Option.some.inj hr' ▸ conforms
  · intro k hk
    exact named_iff.1 (h.present k hk)

end Schema

/-- What a rule without callbacks accepts conforms to it. -/
theorem Rule.conforms_of_accepts {r : Rule} (free : r.Every NoCallback) {key : Key}
    {value taken : Term} {l : Level} {j : Journal} (h : Accepts r.dispatch key value l j taken) :
    r.Conforms j.session.symbols taken := by
  induction r using Rule.induct generalizing key value taken l with
  | type tag =>
    obtain ⟨flattened, unknown, h⟩ := h
    rw [dispatch] at h
    obtain ⟨t, valid, same⟩ := Dispatch.exists_of_type h
    cases same
    exact .type (Tag.canonical_of_validate valid)
  | list d inner ih =>
    obtain ⟨values, rfl, source⟩ := accepts_list (free.inner.mono fun _ => NoCallback.plain) h
    refine .list ?_ (ListRule.arranged_arrange values d)
    intro t ht
    obtain ⟨u, -, taken⟩ := source t (ListRule.mem_of_mem_arrange ht)
    exact ih free.inner taken
  | oneOf rules ih =>
    obtain ⟨r, hr, taken⟩ := accepts_oneOf (free.mono fun _ => NoCallback.plain) h
    exact .oneOf hr (ih r hr (free.alternative hr) taken)
  | nested s ih =>
    have plain := free.mono fun _ => NoCallback.plain
    obtain ⟨pairs, out, -, rfl, settled⟩ := (accepts_nested plain).1 h
    exact Schema.conforms_of_settled plain (fun f hf _ _ _ => ih f hf (free.field hf))
      (Account.settled_of_settle settled)
  | callback c => exact (free.here : NoCallback (.callback c)).elim
  | ignore =>
    obtain ⟨flattened, unknown, h⟩ := h
    cases h

namespace Schema

/-- **The output conforms to the schema.** Without callbacks, every accepted pair has a rule and its
value is one of that rule's, at every depth, and no mandatory name is missing. -/
theorem output_conforms {s : Schema} (free : (Rule.nested s).Every Rule.NoCallback)
    {options : Options} {input : Term} {j : Journal} {out : Output}
    (h : (s.parse options input j).1 = .ok out) :
    (∀ p ∈ out.accepted, ∃ r, s.ruleFor? j.session.symbols p.1 = some r ∧
      r.Conforms j.session.symbols p.2) ∧
    ∀ k ∈ s.mandatoryKeys, ∃ p ∈ out.accepted, p.1.name = k.name := by
  have plain := free.mono fun _ => Rule.NoCallback.plain
  cases hp : input.pairs? with
  | none =>
    rw [parse_of_none hp] at h
    cases h
  | some pairs =>
    have settled := parse_accepted plain hp options j
    rw [h] at settled
    have conforms := conforms_of_settled plain
      (fun f hf _ _ _ => Rule.conforms_of_accepts (free.field hf))
      (Account.settled_of_settle settled.symm)
    cases conforms with
    | nested ruled each present =>
      refine ⟨fun p mem => ?_, present⟩
      obtain ⟨r, hr⟩ := ruled p mem
      exact ⟨r, hr, each p mem r hr⟩

/-- A cluster: a main backend, and any number of spare ones. -/
def cluster : Schema :=
  ⟨[(.text "main", .nested backend), (.text "spares", .list .ordered (.nested backend))], [],
    some [.text "main"]⟩

/-- A cluster of two backends, with a port given as text and one left to its default. -/
theorem output_conforms_cluster :
    let main : Term := .map [(.text "host", .string "a"), (.text "port", .string "8080")]
    let spare : Term := .map [(.text "host", .string "b")]
    let given : Term := .map [(.text "spares", .list [spare]), (.text "main", main)]
    let taken : Pairs :=
      [(.text "spares", .list [.map [(.text "host", .string "b"), (.text "port", .integer 80)]]),
       (.text "main", .map [(.text "host", .string "a"), (.text "port", .integer 8080)])]
    (Rule.nested cluster).Every Rule.NoCallback ∧
      (∃ out, (cluster.parse .default given default).1 = .ok out ∧ out.accepted = taken) ∧
      (∀ p ∈ taken, ∃ r, cluster.ruleFor? .empty p.1 = some r ∧ r.Conforms .empty p.2) ∧
      ∀ k ∈ cluster.mandatoryKeys, ∃ p ∈ taken, p.1.name = k.name := by
  intro main spare given taken
  have free : (Rule.nested cluster).Every Rule.NoCallback := by
    simp [cluster, backend, Rule.NoCallback]
  have parsed : ∃ out, (cluster.parse .default given default).1 = .ok out ∧ out.accepted = taken :=
    ⟨_, rfl, rfl⟩
  obtain ⟨out, ok, accepted⟩ := parsed
  have conforms := output_conforms free ok
  rw [accepted] at conforms
  exact ⟨free, ⟨out, ok, accepted⟩, conforms⟩

end Schema

end Conform
