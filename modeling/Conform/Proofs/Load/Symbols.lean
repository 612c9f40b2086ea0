import Conform.Proofs.Load.Atomicity
import Conform.Proofs.Schema.Conformance
import Conform.Proofs.Term.Decoding

/-!
# The symbols that loading creates

Loading takes a text that comes from outside through decoding, validation and publication. Validation
without callbacks looks symbols up and creates none, and publication does not know of symbols. So what
exists afterwards is what existed before and, if decoding has met a null, the symbol of that name.
-/

namespace Conform

namespace Format

/-- The way that decoding takes through a text. -/
def passage (text : String) : Format → Passage
  | .json =>
    match Json.read? text with
    | some j => ⟨j.hasNull, true⟩
    | none => ⟨false, false⟩
  | .yaml =>
    match Yaml.read? text with
    | some v => v.passage
    | none => ⟨false, false⟩

/-- Decoding creates the symbol of a null and no other, and ends as `Format.passage` tells, in
whatever session. -/
theorem passage_decode (format : Format) (text : String) :
    (format.passage text).Of (format.decode text) := by
  cases format with
  | json =>
    simp only [passage, decode]
    cases Json.read? text with
    | none => exact .throw _
    | some j => exact .lift (Term.session_ofJson j)
  | yaml =>
    simp only [passage, decode]
    cases Yaml.read? text with
    | none => exact .throw _
    | some v => exact (Term.passage_ofYaml v).adapt _

end Format

/-- Loading creates what decoding creates: the symbol of a null that was met. -/
theorem session_load {schema : Schema} (plain : (Rule.nested schema).Every Rule.Plain) (file : String)
    (format : Format) (text : String) (options : LoadOptions) (s : Store) (j : Journal) :
    (load file format text schema options s j).journal.session
      = j.session.met (format.passage text).null := by
  have met {found : Except DecodeFault Term} {session : Session}
      (h : (format.decode text).run j.session = (found, session)) :
      session = j.session.met (format.passage text).null :=
    (congrArg Prod.snd h).symm.trans ((format.passage_decode text).session j.session)
  have kept {term : Term} {found : Except ParseError Output} {j₁ j₂ : Journal}
      (h : (schema.parse options.parse term).run j₁ = (found, j₂)) : j₂.session = j₁.session :=
    (congrArg (·.2.session) h).symm.trans ((Schema.quiet_parse plain options.parse term).session j₁)
  have ends := load_ends file format text schema options s j
  generalize load file format text schema options s j = r at ends ⊢
  cases ends with
  | malformed decoded => exact met decoded
  | invalid decoded parsed => exact (kept parsed).trans (met decoded)
  | published decoded parsed =>
    exact (Store.session_publish _ _).trans ((kept parsed).trans (met decoded))

/-- Which names a session knows after meeting a null or none. -/
theorem existing?_met (s : Session) (null : Bool) (name : String) :
    ((s.met null).symbols.existing? name).isSome ↔
      (s.symbols.existing? name).isSome ∨ (name = "null" ∧ null = true) := by
  simp only [Option.isSome_iff_exists, SymbolTable.existing?_eq_some_iff]
  cases null with
  | false => simp [Session.met]
  | true => simp [Session.met, SymbolTable.mem_intern, or_comm]

/-- **The one symbol that a text can create.** Under a schema without callbacks, whether the load
succeeds or fails, nothing is created but the symbol `null`, and that one if and only if decoding
meets a null; all other names exist afterwards if and only if they existed before. -/
theorem only_null_is_created {schema : Schema} (free : (Rule.nested schema).Every Rule.NoCallback)
    (format : Format) (text : String) (options : LoadOptions) (s : Store) (j : Journal) :
    let after := (loadText format text schema options s j).journal.session
    after = j.session.met (format.passage text).null ∧
      ∀ name, (after.symbols.existing? name).isSome ↔
        (j.session.symbols.existing? name).isSome ∨
          (name = "null" ∧ (format.passage text).null = true) := by
  intro after
  have created : after = j.session.met (format.passage text).null :=
    session_load (free.mono fun _ => Rule.NoCallback.plain) _ _ _ _ _ _
  refine ⟨created, fun name => ?_⟩
  rw [created]
  exact existing?_met j.session _ name

/-- A backend without nulls is loaded, and no name exists that did not. -/
theorem only_null_is_created_backend :
    let loaded := loadText .json "\x7b\"host\": \"a\"\x7d" Schema.backend .default .empty default
    (Rule.nested Schema.backend).Every Rule.NoCallback ∧ loaded.result.isOk = true ∧
      ∀ name, (loaded.journal.session.symbols.existing? name).isSome ↔
        ((default : Journal).session.symbols.existing? name).isSome := by
  intro loaded
  have free : (Rule.nested Schema.backend).Every Rule.NoCallback := by
    simp [Schema.backend, Rule.NoCallback]
  have clear : (Format.json.passage "\x7b\"host\": \"a\"\x7d").null = false := by decide +kernel
  refine ⟨free, by decide +kernel, fun name => ?_⟩
  rw [(only_null_is_created free .json _ .default .empty default).2 name, clear]
  simp

/-- A null in a document creates its symbol, in either format, also under a schema that knows no key
of the document. -/
theorem null_is_created :
    (Rule.nested Schema.empty).Every Rule.NoCallback ∧
      (default : Journal).session.symbols.existing? "null" = none ∧
      (loadText .json "\x7b\"a\": null\x7d" .empty .default .empty
        default).journal.session.symbols.existing? "null" = some ⟨"null"⟩ ∧
      (loadText .yaml "a: ~" .empty .default .empty
        default).journal.session.symbols.existing? "null" = some ⟨"null"⟩ := by
  refine ⟨?_, by decide, by decide +kernel, by decide +kernel⟩
  simp [Schema.empty, Rule.NoCallback]

end Conform
