import Mathlib
import Conform.Load
import Conform.Proofs.Level.Defaults

/-!
# Supplied fields and their defaults

A field that an input supplies, and that is accepted under its own name, keeps the default of that
name from being dispatched: the level, the call and the store are what they would be if there were no
such default. The condition is on the name that the field is accepted under. A callback that renames
the field lets the default in after it.
-/

namespace Conform

namespace Schema

/-- The schema without the default of a name. -/
def withoutDefault (s : Schema) (name : String) : Schema :=
  { s with defaults := s.defaults.filter fun d => d.1.name != name }

/-- In the run through these pairs, a field of this name is accepted under a key of this name. -/
def Supplies (s : Schema) (pairs : Pairs) (l : Level) (j : Journal) (name : String) : Prop :=
  ∃ p k, p.1.name = name ∧ k.name = name ∧
    Level.AcceptedAs (Rule.dispatchFields s.fields) p k pairs l j

/-- Which defaults are dispatched when the pairs have led from one state of the level to another. -/
structure DefaultsYield (s : Schema) (pairs : Pairs) (l : Level) (j : Journal) (l₁ : Level)
    (j₁ : Journal) : Prop where
  /-- Applying the defaults is dispatching these. -/
  phase : s.defaults.foldlM (Level.processDefault (Rule.dispatchFields s.fields)) l₁ j₁
    = (Level.dispatched (Rule.dispatchFields s.fields) s.defaults l₁ j₁).foldlM
      (Level.process (Rule.dispatchFields s.fields)) l₁ j₁
  /-- A default is one of these if and only if its name has not come in before its turn. -/
  exact : ∀ before d after l₂ j₂, s.defaults = before ++ d :: after →
    before.foldlM (Level.processDefault (Rule.dispatchFields s.fields)) l₁ j₁ = (.ok l₂, j₂) →
    (d ∈ Level.dispatched (Rule.dispatchFields s.fields) s.defaults l₁ j₁ ↔
      ∀ q ∈ l₂.accepted, q.1.name ≠ d.1.name)
  /-- The default of a name that was supplied is none of these. -/
  supplied : ∀ name, s.Supplies pairs l j name → ∀ d ∈ s.defaults, d.1.name = name →
    d ∉ Level.dispatched (Rule.dispatchFields s.fields) s.defaults l₁ j₁

variable {s : Schema}

theorem singleTable (single : (Rule.nested s).Every Rule.Single) :
    Level.SingleTable (Rule.dispatchFields s.fields) :=
  Rule.forall_mem_dispatchFields fun _ hf => Rule.single_dispatch (single.field hf)

/-- What the second phase does, default by default: one that is yielded to changes nothing, any
other is dispatched. -/
theorem defaultsYield (single : (Rule.nested s).Every Rule.Single) (distinct : DistinctNames s.defaults)
    {pairs : Pairs} {l l₁ : Level} {j j₁ : Journal}
    (h : pairs.foldlM (Level.process (Rule.dispatchFields s.fields)) l j = (.ok l₁, j₁)) :
    s.DefaultsYield pairs l j l₁ j₁ where
  phase := Level.foldlM_processDefault s.defaults l₁ j₁
  exact before d after l₂ j₂ split turn := by
    rw [split] at distinct ⊢
    rw [Level.mem_dispatched_iff distinct turn]
    constructor
    · intro absent q hq name
      exact absent ⟨q, hq, name⟩
    · rintro absent ⟨q, hq, name⟩
      exact absent q hq name
  supplied name given d hd same := by
    obtain ⟨p, k, -, key, accepted⟩ := given
    have holds := Level.holds_of_acceptedAs (singleTable single) accepted h
    rw [key, ← same] at holds
    exact Level.not_mem_dispatched (singleTable single) holds s.defaults

/-- A default whose name the input supplies plays no part: the run is the one of the schema without
it. -/
theorem run_withoutDefault (single : (Rule.nested s).Every Rule.Single) {pairs : Pairs} {l : Level}
    {j : Journal} {name : String} (given : s.Supplies pairs l j name) (fill : Bool) :
    Level.run (Rule.dispatchFields s.fields) s.defaults s.mandatoryKeys fill pairs l j
      = Level.run (Rule.dispatchFields (s.withoutDefault name).fields) (s.withoutDefault name).defaults
        (s.withoutDefault name).mandatoryKeys fill pairs l j := by
  obtain ⟨p, k, -, rfl, accepted⟩ := given
  exact Level.run_without (singleTable single) accepted _ _ fill

theorem dispatch_withoutDefault (single : (Rule.nested s).Every Rule.Single) {value : Term}
    {inner : Pairs} (hp : value.pairs? = some inner) {key : Key} {l : Level} {j : Journal}
    {name : String} (given : s.Supplies inner (.start (l.path.child key) l.options) j name) :
    (Rule.nested s).dispatch key value l j
      = (Rule.nested (s.withoutDefault name)).dispatch key value l j := by
  rw [Rule.dispatch, Rule.dispatch, s.dispatch_eq, (s.withoutDefault name).dispatch_eq,
    Dispatch.nested_of_pairs hp, Dispatch.nested_of_pairs hp, Run.bind_apply, Run.bind_apply,
    run_withoutDefault single given]

/-- A default whose name the input supplies plays no part in a parse. -/
theorem parse_withoutDefault (single : (Rule.nested s).Every Rule.Single) {input : Term}
    {pairs : Pairs} (hp : input.pairs? = some pairs) {options : Options} {j : Journal} {name : String}
    (given : s.Supplies pairs (.start ⟨options.path⟩ options) j name) :
    s.parse options input j = (s.withoutDefault name).parse options input j := by
  rw [parse_of_pairs hp, parse_of_pairs hp, Run.bind_apply, Run.bind_apply,
    run_withoutDefault single given]

end Schema

/-- Two schemas that agree on the term that a text holds load it alike. -/
theorem load_congr {s s' : Schema} {file text : String} {format : Format} {options : LoadOptions}
    {store : Store} {j : Journal}
    (agree : ∀ term session, (format.decode text).run j.session = (.ok term, session) →
      (s.parse options.parse term).run { j with session := session }
        = (s'.parse options.parse term).run { j with session := session }) :
    load file format text s options store j = load file format text s' options store j := by
  unfold load
  split
  · rfl
  · rename_i term session decoded
    rw [agree term session decoded]

namespace Schema

/-- **A supplied field keeps its default out.** Under a schema that can be built and whose callbacks
give no bulk replacement, at every level: a default is dispatched if and only if its name has not come
in before its turn, so not if a field was accepted under it; the level is then that of the schema
without the default, and so are, from the top, the output and the store. -/
theorem supplied_keeps_default_out {s : Schema} (built : s.Built)
    (single : (Rule.nested s).Every Rule.Single) :
    (∀ s' : Schema, Rule.Within (.nested s') (.nested s) →
      (∀ pairs l j l₁ j₁,
        pairs.foldlM (Level.process (Rule.dispatchFields s'.fields)) l j = (.ok l₁, j₁) →
        s'.DefaultsYield pairs l j l₁ j₁) ∧
      ∀ key value inner l j name, value.pairs? = some inner →
        s'.Supplies inner (.start (l.path.child key) l.options) j name →
        (Rule.nested s').dispatch key value l j
          = (Rule.nested (s'.withoutDefault name)).dispatch key value l j) ∧
    (∀ options input pairs j name, input.pairs? = some pairs →
      s.Supplies pairs (.start ⟨options.path⟩ options) j name →
      s.parse options input j = (s.withoutDefault name).parse options input j) ∧
    ∀ (file : String) (format : Format) (text : String) (options : LoadOptions) (store : Store)
      (j : Journal) term session pairs name,
      (format.decode text).run j.session = (.ok term, session) → term.pairs? = some pairs →
      s.Supplies pairs (.start ⟨options.parse.path⟩ options.parse) { j with session := session } name →
      load file format text s options store j
        = load file format text (s.withoutDefault name) options store j := by
  refine ⟨?_, ?_, ?_⟩
  · intro s' within
    constructor
    · intro pairs l j l₁ j₁ h
      exact defaultsYield (single.within within) (built.wellNamed.within within).here.defaults h
    · intro key value inner l j name hp given
      exact dispatch_withoutDefault (single.within within) hp given
  · intro options input pairs j name hp given
    exact parse_withoutDefault single hp given
  · intro file format text options store j term session pairs name decoded hp given
    apply load_congr
    intro term' session' decoded'
    rw [decoded] at decoded'
    cases decoded'
    exact parse_withoutDefault single hp given

/-- Two names for one setting: a field `a`, which a callback renames, and the field `b` itself. -/
def aliased : Schema :=
  ⟨[(.text "a", .callback (.keyed fun _ value => pure (some (.rename (.text "b") value)))),
    (.text "b", .type .integer)], [(.text "a", .integer 10), (.text "b", .integer 20)], none⟩

theorem built_aliased : aliased.Built := by
  have a := Built.empty.field (.text "a")
    (r := .callback (.keyed fun _ value => pure (some (.rename (.text "b") value))))
    (by simp [Rule.Built])
  have b := a.field (.text "b") (r := .type .integer) (by simp [Rule.Built])
  exact (b.withDefault (.text "a") (.integer 10)).withDefault (.text "b") (.integer 20)

theorem single_aliased : (Rule.nested aliased).Every Rule.Single := by
  simp only [aliased, Rule.every_nested_iff]
  simp [Rule.Single]
  intro key value level session v h
  cases h
  trivial

/-- Where `b` is given, its default does not matter. -/
theorem supplied_keeps_default_out_aliased :
    let given : Pairs := [(.text "b", .integer 5)]
    aliased.Built ∧ (Rule.nested aliased).Every Rule.Single ∧
      aliased.Supplies given (.start ⟨""⟩ .default) default "b" ∧
      aliased.parse .default (.map given) default
        = (aliased.withoutDefault "b").parse .default (.map given) default := by
  intro given
  have supplies : aliased.Supplies given (.start ⟨""⟩ .default) default "b" :=
    ⟨(.text "b", .integer 5), .text "b", rfl, rfl, .here rfl rfl⟩
  exact ⟨built_aliased, single_aliased, supplies,
    (supplied_keeps_default_out built_aliased single_aliased).2.1 .default (.map given) given default
      "b" rfl supplies⟩

/-- Where `a` is given, it is accepted as `b`, and then its default is too: the store holds the
default. -/
theorem default_of_renamed_field :
    let given : Pairs := [(.text "a", .integer 1)]
    let table := Rule.dispatchFields aliased.fields
    let start : Level := .start ⟨""⟩ .default
    Level.AcceptedAs table (.text "a", .integer 1) (.text "b") given start default ∧
      (∃ l₁ j₁, given.foldlM (Level.process table) start default = (.ok l₁, j₁) ∧
        (.text "a", .integer 10) ∈ Level.dispatched table aliased.defaults l₁ j₁) ∧
      (load memoryName .json "\x7b\"a\": 1\x7d" aliased .default .empty default).store.get?
        ⟨"termcheck", "global", "b"⟩ = some (.integer 10) := by
  intro given table start
  refine ⟨.here rfl rfl, ⟨_, _, rfl, ?_⟩, by cbv⟩
  exact List.mem_cons_self

end Schema

end Conform
