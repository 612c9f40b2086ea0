import Conform.Proofs.Level.Moved
import Conform.Proofs.Level.Semantics

/-!
# A schema at another place

A schema may stand on its own or within others, and below any base path. Without callbacks to which the
level is shown, this makes no difference but to paths. A nested level comes to what a call with its
value comes to that starts from the path of its field. And a base path is put in front of the paths of
a call, with a point in between, and changes nothing else; for that, the names of all keys have to be
there, since a path that is still empty is not told from none.
-/

namespace Conform

/-! ## Nested levels -/

/-- The field whose level came to this output. -/
def Found.ofOutput (key : Key) (out : Output) : Found :=
  .accept key (.map out.accepted) out.flattened out.unknown

/-- The output of a call whose only field is a level that came to this output. -/
def Output.ofField (path : Path) (key : Key) (inner : Output) : Output :=
  ⟨[(key, .map inner.accepted)], (path, .map inner.accepted) :: inner.flattened, inner.unknown⟩

/-- The options of a call that starts from a path. -/
def Options.startingAt (options : Options) (path : Path) : Options :=
  { options with path := path.text }

theorem Level.run_singleton (table : List (Key × Dispatch)) (fill : Bool) (p : Key × Term) (l : Level)
    (j : Journal) : run table [] [] fill [p] l j = l.process table p j := by
  have nothing : (if fill then ([] : Pairs) else []) = [] := ite_self []
  rw [run, nothing, Run.bind_apply, List.foldlM_cons, Run.bind_apply]
  rcases l.process table p j with ⟨e | l', j'⟩ <;> rfl

namespace Schema

variable {s : Schema}

theorem ruleFor?_withField_empty (t : SymbolTable) (key : Key) (r : Rule) :
    (empty.withField key r).ruleFor? t key = some r := by
  simp [ruleFor?, valueFor?, valueAt?, withField, place, empty]

/-- A call with one pair, by a schema that has a rule for its key and nothing else. -/
theorem parse_singleton (key : Key) (r : Rule) (value : Term) (options : Options) (j : Journal) :
    (empty.withField key r).parse options (.map [(key, value)]) j
      = let step := Level.process (Rule.dispatchFields (empty.withField key r).fields)
          (.start ⟨options.path⟩ options) (key, value) j
        (step.1.map Level.output, step.2) := by
  rw [parse_of_pairs rfl, Run.bind_pure_apply]
  exact congrArg (fun r => (r.1.map Level.output, r.2)) (Level.run_singleton _ true _ _ j)

/-- The dispatcher of a nested schema and a call with the value, from the path of the field. -/
theorem inStep_dispatch_parse (free : (Rule.nested s).Every Rule.NoContext) {value : Term} {pairs : Pairs}
    (hp : value.pairs? = some pairs) (given : pairs ≠ []) (key : Key) (l : Level) :
    Run.InStep Eq Eq (fun found out => found = Found.ofOutput key out)
      ((Rule.nested s).dispatch key value l)
      (s.parse (l.options.startingAt (l.path.child key)) value) := by
  have filled : (!pairs.isEmpty) = true := by simpa using given
  have runs := s.inStep_run (fun f hf => Rule.moves (keptBelow_eq _) (free.field hf)) hp (.all s value)
    (fun _ _ => rfl : FieldsCorrespond _ Eq (l.path.child key) (l.path.child key)) l.options
    (l.options.startingAt (l.path.child key)) true
  rw [Rule.dispatch, s.dispatch_eq, Dispatch.nested_of_pairs hp, parse_of_pairs hp, filled]
  apply (runs.mono (fun _ _ => ParseError.eq_of_moved) fun _ _ => id).bind
  intro inner inner' same
  refine .pure ?_
  rw [same.accepted, entries_eq_of_moved same.flattened, paths_eq_of_moved same.unknown]
  rfl

/-- A nested level comes to what the call comes to. -/
theorem dispatch_eq_parse (free : (Rule.nested s).Every Rule.NoContext) {value : Term} {pairs : Pairs}
    (hp : value.pairs? = some pairs) (given : pairs ≠ []) (key : Key) (l : Level) (j : Journal) :
    ((Rule.nested s).dispatch key value l j).1
        = (s.parse (l.options.startingAt (l.path.child key)) value j).1.map (Found.ofOutput key) ∧
      ((Rule.nested s).dispatch key value l j).2.session
        = (s.parse (l.options.startingAt (l.path.child key)) value j).2.session := by
  have ends := s.inStep_dispatch_parse free hp given key l j j rfl
  refine ⟨?_, ends.sessions⟩
  have results := ends.results
  generalize ((Rule.nested s).dispatch key value l j).1 = r at results ⊢
  generalize (s.parse (l.options.startingAt (l.path.child key)) value j).1 = r' at results ⊢
  cases results with
  | ok same => exact congrArg Except.ok same
  | error same => exact congrArg Except.error same

/-- A step of any level to a field with this rule takes in what the call comes to. -/
theorem process_eq_parse (free : (Rule.nested s).Every Rule.NoContext) {value : Term} {pairs : Pairs}
    (hp : value.pairs? = some pairs) (given : pairs ≠ []) {parent : Schema} {key : Key} {j : Journal}
    (rule : parent.ruleFor? j.session.symbols key = some (.nested s)) (l : Level) :
    (l.process (Rule.dispatchFields parent.fields) (key, value) j).1
        = (s.parse (l.options.startingAt (l.path.child key)) value j).1.map
          (fun inner => l.take (Found.ofOutput key inner)) ∧
      (l.process (Rule.dispatchFields parent.fields) (key, value) j).2.session
        = (s.parse (l.options.startingAt (l.path.child key)) value j).2.session := by
  obtain ⟨result, session⟩ := s.dispatch_eq_parse free hp given key l j
  rw [Level.process_ruled rule, Run.bind_pure_apply, ← session, result]
  refine ⟨?_, rfl⟩
  generalize (s.parse (l.options.startingAt (l.path.child key)) value j).1 = r
  cases r <;> rfl

/-- **A nested level is an independent call.** Take a schema without callbacks to which the level is
shown, and a value with pairs. A call whose only field has this schema comes to what the call with the
value alone comes to that starts from the path of the field: the same error, or its accepted pairs as
the field's value, its flattened pairs behind that of the field, and its unknown paths. So does the
dispatch of any field, whatever has been accepted at its level before and wherever the level stands; and
a step of any parent takes this in, whatever its other fields, defaults and mandatory keys are. -/
theorem nested_level_is_call (free : (Rule.nested s).Every Rule.NoContext) {value : Term} {pairs : Pairs}
    (hp : value.pairs? = some pairs) (given : pairs ≠ []) (key : Key) (j : Journal) :
    (∀ options : Options,
      let path : Path := Path.child ⟨options.path⟩ key
      let whole := (empty.withField key (.nested s)).parse options (.map [(key, value)]) j
      let call := s.parse (options.startingAt path) value j
      whole.1 = call.1.map (Output.ofField path key) ∧ whole.2.session = call.2.session) ∧
    ∀ l : Level,
      let call := s.parse (l.options.startingAt (l.path.child key)) value j
      (((Rule.nested s).dispatch key value l j).1 = call.1.map (Found.ofOutput key) ∧
        ((Rule.nested s).dispatch key value l j).2.session = call.2.session) ∧
      ∀ parent : Schema, parent.ruleFor? j.session.symbols key = some (.nested s) →
        let step := l.process (Rule.dispatchFields parent.fields) (key, value) j
        step.1 = call.1.map (fun inner => l.take (Found.ofOutput key inner)) ∧
          step.2.session = call.2.session := by
  refine ⟨?_, fun l => ⟨s.dispatch_eq_parse free hp given key l j, ?_⟩⟩
  · intro options path whole call
    have step := s.process_eq_parse free hp given
      (ruleFor?_withField_empty j.session.symbols key (.nested s)) (.start ⟨options.path⟩ options)
    have output (r : Except ParseError Output) :
        (r.map fun inner => (Level.start ⟨options.path⟩ options).take (Found.ofOutput key inner)).map
          Level.output = r.map (Output.ofField path key) := by
      cases r <;> rfl
    simp only [whole, parse_singleton]
    exact ⟨(congrArg (Except.map Level.output) step.1).trans (output _), step.2⟩
  · intro parent rule
    exact s.process_eq_parse free hp given rule l

/-- A service under the key `main`, below `app`: its backend and its name have the paths that they have
in a call that starts from `app.main`. -/
theorem nested_level_is_call_service :
    let given : Pairs := [(.text "backend", .map [(.text "host", .string "web")])]
    let options : Options := { Options.default with path := "app" }
    let whole := (empty.withField (.text "main") (.nested service)).parse options
      (.map [(.text "main", .map given)]) default
    (Rule.nested service).Every Rule.NoContext ∧ given ≠ [] ∧
      ∃ inner, (service.parse (options.startingAt ⟨"app.main"⟩) (.map given) default).1 = .ok inner ∧
        inner.flattened.map (·.1.text)
          = ["app.main.backend", "app.main.backend.host", "app.main.backend.port", "app.main.name"] ∧
        whole.1 = .ok (Output.ofField ⟨"app.main"⟩ (.text "main") inner) := by
  intro given options whole
  have free : (Rule.nested service).Every Rule.NoContext := by
    simp [service, backend, Rule.NoContext]
  have given_ne : given ≠ [] := by simp [given]
  refine ⟨free, given_ne, _, rfl, rfl, ?_⟩
  exact ((nested_level_is_call free rfl given_ne (.text "main") default).1 options).1

end Schema

/-! ## Base paths -/

/-- The path with a base in front. -/
def Path.below (base : String) (p : Path) : Path :=
  ⟨base ++ "." ++ p.text⟩

/-- The same failure, with a base in front of its path. -/
def ParseError.below (base : String) : ParseError → ParseError
  | .invalid p reason => .invalid (p.below base) reason
  | .missing p => .missing (p.below base)
  | .unrecognized name => .unrecognized name
  | .refused p detail => .refused (p.below base) detail
  | .callbackFault p => .callbackFault (p.below base)

/-- The same output, with a base in front of its paths. -/
def Output.below (base : String) (out : Output) : Output :=
  ⟨out.accepted, out.flattened.map fun e => (e.1.below base, e.2), out.unknown.map (Path.below base)⟩

/-- The second path is the first below the base, and the first is not empty. -/
def PutBelow (base : String) (p p' : Path) : Prop :=
  p.text ≠ "" ∧ p' = p.below base

/-- A name to put into a path is there. -/
def Key.Named (key : Key) : Prop :=
  key.name ≠ ""

section Base

variable {base : String}

/-- Putting paths below a base is kept by a named child. -/
theorem keptBelow_putBelow : KeptBelow Key.Named (PutBelow base) := by
  rintro p _ ⟨given, rfl⟩ key -
  have extended : (p.below base).text ≠ "" := by simp [Path.below]
  rw [Path.child, Path.child, if_neg (by simpa using given), if_neg (by simpa using extended)]
  refine ⟨by simp, ?_⟩
  simp only [Path.below, String.append_assoc]

theorem fieldsCorrespond_base (given : base ≠ "") :
    FieldsCorrespond Key.Named (PutBelow base) ⟨""⟩ ⟨base⟩ := by
  intro key named
  rw [Path.child, Path.child, if_pos (by simp), if_neg (by simpa using given)]
  exact ⟨named, rfl⟩

/-- A fault moved below the base is the fault with the base in front of its path. -/
theorem ParseError.eq_below {e e' : ParseError} (h : e.Moved (PutBelow base) e') : e' = e.below base := by
  cases h with
  | invalid reason put => rw [put.2, below]
  | missing put => rw [put.2, below]
  | refused detail put => rw [put.2, below]
  | callbackFault put => rw [put.2, below]

theorem Output.eq_below {out out' : Output} (h : out.Moved (PutBelow base) out') :
    out' = out.below base := by
  have flattened : out.flattened.map (fun e => (e.1.below base, e.2)) = out'.flattened := by
    rw [← List.forall₂_eq_eq_eq, List.forall₂_map_left_iff]
    exact h.flattened.imp fun _ _ put => Prod.ext put.1.2.symm put.2
  have unknown : out.unknown.map (Path.below base) = out'.unknown := by
    rw [← List.forall₂_eq_eq_eq, List.forall₂_map_left_iff]
    exact h.unknown.imp fun _ _ put => put.2.symm
  rw [below, flattened, unknown, h.accepted]

end Base

namespace Schema

/-- **A base path is only put in front.** Take a schema without callbacks to which the level is shown,
and an input with pairs, such that all keys that a call meets have names: those of the input's levels,
of defaults, the mandatory ones, and those that callbacks put in place of others. Under a base a call
accepts what it accepts without one, or fails with the same error; the flattened paths, the unknown
ones, and the path of the error have the base in front. -/
theorem base_is_put_in_front {s : Schema} (free : (Rule.nested s).Every Rule.NoContext) {input : Term}
    {pairs : Pairs} (hp : input.pairs? = some pairs)
    (named : s.MeetsOnly Key.Named input) {base : String} (given : base ≠ "")
    (options : Options) (j : Journal) :
    (s.parse (options.startingAt ⟨base⟩) input j).1
        = ((s.parse (options.startingAt ⟨""⟩) input j).1.map (Output.below base)).mapError
          (ParseError.below base) ∧
      (s.parse (options.startingAt ⟨base⟩) input j).2.session
        = (s.parse (options.startingAt ⟨""⟩) input j).2.session := by
  have sides : Run.InStep Eq (ParseError.Moved (PutBelow base)) (Output.Moved (PutBelow base))
      (s.parse (options.startingAt ⟨""⟩) input) (s.parse (options.startingAt ⟨base⟩) input) :=
    inStep_parse keptBelow_putBelow free hp named (fieldsCorrespond_base given)
  have ends := sides j j rfl
  refine ⟨?_, ends.sessions.symm⟩
  have results := ends.results
  generalize (s.parse (options.startingAt ⟨base⟩) input j).1 = r' at results ⊢
  generalize (s.parse (options.startingAt ⟨""⟩) input j).1 = r at results ⊢
  cases results with
  | ok moved => exact congrArg Except.ok (Output.eq_below moved)
  | error moved => exact congrArg Except.error (ParseError.eq_below moved)

/-- A service below `app`: with a backend that has a key too many, and with one without its host. -/
theorem base_is_put_in_front_service :
    let coloured : Term := .map [(.text "backend",
      .map [(.text "host", .string "web"), (.text "colour", .string "red")])]
    let hostless : Term := .map [(.text "backend", .map [(.text "port", .integer 80)])]
    (Rule.nested service).Every Rule.NoContext ∧
      service.MeetsOnly Key.Named coloured ∧
      service.MeetsOnly Key.Named hostless ∧
      (∃ out, (service.parse (Options.default.startingAt ⟨""⟩) coloured default).1 = .ok out ∧
        out.unknown = [⟨"backend.colour"⟩] ∧
        (service.parse (Options.default.startingAt ⟨"app"⟩) coloured default).1
          = .ok (out.below "app")) ∧
      (service.parse (Options.default.startingAt ⟨"app"⟩) hostless default).1
        = .error (.missing ⟨"app.backend.host"⟩) := by
  intro coloured hostless
  have free : (Rule.nested service).Every Rule.NoContext := by
    simp [service, backend, Rule.NoContext]
  have called (key : Key) (value : Term) : (Rule.callback (.keyed fun _ value =>
      pure (some (.replace (.tuple [value]))))).MeetsOnly Key.Named key value := by
    rw [Rule.meetsOnly_callback_iff]
    rintro _ _ _ ⟨⟩
    trivial
  have named (fields : Pairs) (h : ∀ p ∈ fields, p.1.Named) :
      service.MeetsOnly Key.Named (.map [(.text "backend", .map fields)]) := by
    simp [service, backend, meetsOnly_iff, pairMeetsOnly_iff, offered, Term.pairs?, mandatoryKeys, called,
      Key.Named, Key.name]
    rintro key _ (mem | ⟨rfl, -⟩)
    · exact h _ mem
    · simp
  have named_coloured := named [(.text "host", .string "web"), (.text "colour", .string "red")]
    (by simp [Key.Named, Key.name])
  have named_hostless := named [(.text "port", .integer 80)] (by simp [Key.Named, Key.name])
  have app : "app" ≠ "" := by decide
  refine ⟨free, named_coloured, named_hostless, ⟨_, rfl, rfl, ?_⟩, ?_⟩
  · exact (base_is_put_in_front free rfl named_coloured app .default default).1
  · exact (base_is_put_in_front free rfl named_hostless app .default default).1

end Schema

end Conform
