import Conform.Proofs.Level.Agree
import Conform.Proofs.Rule.InOrder
import Conform.Proofs.Schema.Growth
import Conform.Proofs.Term.Rekeyed
import Mathlib.Data.List.Nodup

/-!
# The two kinds of keys are interchangeable

A document that spells its keys as texts and the same document with symbols for some of them come to
the same end, as long as the names are symbols that exist. A level asks for keys in three ways: it
looks up their rules, which finds one entry of a name at most, it asks which names have been accepted,
and it puts them into paths. None of them tells the kinds apart. So two runs through a level agree,
step by step, and with them the dispatchers of all rules but two: a callback may look at anything, and
the order of terms, by which lists are sorted, puts symbols before texts.

The `rekeys_*` lemmas go through the kinds of rules; `valueFor?_of_keyChange` is where the kind of a
key comes in.
-/

namespace Conform

/-- Two failures of one kind, about the same field. Reasons may quote the value, and so its keys. -/
inductive ParseError.SameFault : ParseError → ParseError → Prop where
  | invalid (path : Path) (r r' : Reason) : SameFault (.invalid path r) (.invalid path r')
  | missing (path : Path) : SameFault (.missing path) (.missing path)
  | unrecognized (name : String) : SameFault (.unrecognized name) (.unrecognized name)
  | refused (path : Path) (d d' : Term) : SameFault (.refused path d) (.refused path d')
  | callbackFault (path : Path) : SameFault (.callbackFault path) (.callbackFault path)

theorem ParseError.SameFault.isData {e e' : ParseError} (h : SameFault e e') :
    e.isData = e'.isData := by
  cases h <;> rfl

/-- A path with a value, and the same path with the value under other keys. -/
def EntryRekeyed (R : Key → Key → Prop) (e f : Path × Term) : Prop :=
  e.1 = f.1 ∧ e.2.Rekeyed R f.2

/-- What became of a field, and the same with other keys. -/
inductive Found.Rekeyed (R : Key → Key → Prop) : Found → Found → Prop where
  | accept {key key' : Key} {value value' : Term} {flattened flattened' : List (Path × Term)}
    (unknown : List Path) : R key key' → value.Rekeyed R value' →
    List.Forall₂ (EntryRekeyed R) flattened flattened' →
    Rekeyed R (.accept key value flattened unknown) (.accept key' value' flattened' unknown)
  | drop : Rekeyed R .drop .drop

/-- A level, and the same level with other keys. -/
structure Level.Rekeyed (R : Key → Key → Prop) (l l' : Level) : Prop where
  place : l.SamePlace l'
  accepted : List.Forall₂ (Term.PairRekeyed R) l.accepted l'.accepted
  flattened : List.Forall₂ (EntryRekeyed R) l.flattened l'.flattened
  unknown : l.unknown = l'.unknown

/-- A dispatcher that makes no difference between a field and the same field with other keys. -/
def Dispatch.Rekeys (t : SymbolTable) (R : Key → Key → Prop) (d : Dispatch) : Prop :=
  ∀ key key' value value' l l', R key key' → value.Rekeyed R value' → l.SamePlace l' →
    Run.Agree t ParseError.SameFault (Found.Rekeyed R) (d key value l) (d key' value' l')

/-- A path is extended by the key's name, whatever its kind. -/
theorem Path.child_congr (p : Path) {key key' : Key} (h : key.name = key'.name) :
    p.child key = p.child key' := by
  rw [child, child, h]

/-! ## Lookup -/

section Lookup

variable {α : Type} {table : List (Key × α)}

/-- Of two keys of one name only one can be in the table. -/
theorem eq_of_valueAt? (distinct : DistinctNames table) {key key' : Key} (name : key.name = key'.name)
    {a a' : α} (h : valueAt? table key = some a) (h' : valueAt? table key' = some a') :
    key = key' := by
  have same : (key, a) = (key', a') :=
    List.inj_on_of_nodup_map distinct (mem_of_valueAt? h) (mem_of_valueAt? h') name
  exact congrArg Prod.fst same

/-- A symbol that exists and the text of its name find the same entry. -/
theorem valueFor?_symbol (distinct : DistinctNames table) {t : SymbolTable} {name : String}
    (known : ⟨name⟩ ∈ t.symbols) :
    valueFor? t table (.symbol ⟨name⟩) = valueFor? t table (.text name) := by
  have existing : t.existing? name = some ⟨name⟩ :=
    SymbolTable.existing?_eq_some_iff.2 ⟨rfl, known⟩
  simp only [valueFor?, existing, Option.bind_some]
  cases symbol : valueAt? table (.symbol ⟨name⟩) with
  | none =>
    cases valueAt? table (.text name) <;> rfl
  | some a =>
    cases text : valueAt? table (.text name) with
    | none => rfl
    | some a' =>
      have same : Key.symbol ⟨name⟩ = .text name := eq_of_valueAt? distinct rfl symbol text
      cases same

/-- Keys that stand for each other have the same rule: a text whose symbol exists is looked up as
that symbol, and the table has a name once. -/
theorem valueFor?_of_keyChange {t : SymbolTable} {R : Key → Key → Prop} (change : KeyChange t R)
    (distinct : DistinctNames table) {key key' : Key} (h : R key key') :
    valueFor? t table key = valueFor? t table key' := by
  rcases change.symbol key key' h with rfl | known
  · rfl
  · have name := change.name key key' h
    cases key with
    | symbol s =>
      cases key' with
      | symbol s' =>
        obtain rfl : s = s' := congrArg Symbol.mk name
        rfl
      | text n =>
        obtain rfl : s.name = n := name
        exact valueFor?_symbol distinct known
    | text n =>
      cases key' with
      | symbol s =>
        obtain rfl : n = s.name := name
        exact (valueFor?_symbol distinct known).symm
      | text n' =>
        obtain rfl : n = n' := name
        rfl

end Lookup

/-! ## Levels -/

namespace Level

variable {t : SymbolTable} {R : Key → Key → Prop} {l l' : Level}

theorem child_of_rekeyed (change : KeyChange t R) (place : l.SamePlace l') {key key' : Key}
    (h : R key key') : l.path.child key = l'.path.child key' := by
  rw [place.1]
  exact l'.path.child_congr (change.name key key' h)

/-- Levels that differ in the kinds of their keys take finds that do, and still do. -/
theorem rekeyed_take (change : KeyChange t R) (h : l.Rekeyed R l') {found found' : Found}
    (same : found.Rekeyed R found') : (l.take found).Rekeyed R (l'.take found') := by
  cases same with
  | accept unknown key value flattened =>
    refine ⟨h.place, ?_, ?_, ?_⟩
    · exact List.rel_append h.accepted (.cons ⟨key, value⟩ .nil)
    · exact List.rel_append h.flattened (.cons ⟨child_of_rekeyed change h.place key, value⟩ flattened)
    · exact congrArg (· ++ unknown) h.unknown
  | drop => exact h

/-- Whether a default is kept out is decided by names, so both sides agree on it. -/
theorem has_of_rekeyed (change : KeyChange t R) (h : l.Rekeyed R l') (key : Key) :
    l.has key = l'.has key := by
  have accepted := h.accepted
  unfold has
  generalize l.accepted = ps at accepted ⊢
  generalize l'.accepted = qs at accepted ⊢
  induction accepted with
  | nil => rfl
  | cons first _ ih =>
    rw [List.any_cons, List.any_cons, ih, Key.sameName, Key.sameName, change.name _ _ first.1]

/-- A table without two entries of one name, whose dispatchers make no difference. -/
structure RekeyingTable (t : SymbolTable) (R : Key → Key → Prop) (table : List (Key × Dispatch)) :
    Prop where
  distinct : DistinctNames table
  rekeys : ∀ entry ∈ table, entry.2.Rekeys t R

variable {table : List (Key × Dispatch)}

/-- One step: the pair with the other key finds the same dispatcher. -/
theorem agree_process_rekeyed (change : KeyChange t R) (tables : RekeyingTable t R table)
    (h : l.Rekeyed R l') {p q : Key × Term} (hpq : Term.PairRekeyed R p q) :
    Run.Agree t ParseError.SameFault (Level.Rekeyed R) (l.process table p) (l'.process table q) := by
  have child := child_of_rekeyed change h.place hpq.1
  apply agree_process
  · refine ⟨h.place, h.accepted, h.flattened, ?_⟩
    dsimp only
    rw [h.unknown, child]
  · rw [← valueFor?_of_keyChange change tables.distinct hpq.1]
    cases hd : valueFor? t table p.1 with
    | none => exact .none
    | some d =>
      obtain ⟨k, -, mem⟩ := mem_of_valueFor? hd
      have found := tables.rekeys _ mem _ _ _ _ _ _ hpq.1 hpq.2 h.place
      exact .some (found.mono fun _ _ same => rekeyed_take change h same)

/-- A level and the same level with other keys go through pairs and the same pairs with other keys side
by side. -/
theorem tandem_rekeyed (change : KeyChange t R) (tables : RekeyingTable t R table) :
    Tandem t ParseError.SameFault (Term.PairRekeyed R) (Level.Rekeyed R) table table where
  step _ _ _ _ h hpq := agree_process_rekeyed change tables h hpq
  path _ _ h := h.place.1
  has _ _ key h := has_of_rekeyed change h key
  default p := ⟨change.refl p.1, .same p.2⟩
  missing := .missing

theorem rekeyed_start (R : Key → Key → Prop) (path : Path) (options : Options) :
    (Level.start path options).Rekeyed R (Level.start path options) :=
  ⟨⟨rfl, rfl⟩, .nil, .nil, rfl⟩

end Level

/-! ## Each kind of rule -/

namespace Dispatch

variable {t : SymbolTable} {R : Key → Key → Prop}

/-- A type rule sees no key but those inside the value, and reads the value's text and pairs, which
are the same. -/
theorem rekeys_type (change : KeyChange t R) (tag : Tag) : Rekeys t R (type tag) := by
  intro key key' value value' l l' hk hv place
  have quiet := (steady_type tag).quiet
  refine .of_quiet (quiet key value l) (quiet key' value' l') ?_
  intro j j' hj hj'
  have valid := Tag.validate_of_rekeyed hv t tag
  unfold type
  rw [hj, hj']
  generalize tag.validate t value = r at valid ⊢
  generalize tag.validate t value' = r' at valid ⊢
  cases valid with
  | ok taken => exact .ok (.accept [] hk taken .nil)
  | error =>
    rw [Level.child_of_rekeyed change place hk]
    exact .error (.invalid _ _ _)

theorem rekeys_ignore : Rekeys t R ignore :=
  fun _ _ _ _ _ _ _ _ _ => .pure .drop

/-- What the items of two lists come to: the values and what is within them have other keys. -/
def ItemsRekeyed (R : Key → Key → Prop) (found found' : ItemsFound) : Prop :=
  List.Forall₂ (Term.Rekeyed R) found.1 found'.1 ∧
    List.Forall₂ (EntryRekeyed R) found.2.1 found'.2.1 ∧ found.2.2 = found'.2.2

theorem joins_of_rekeyed {found found' : Found} (h : found.Rekeyed R found') :
    found.Joins (ItemsRekeyed R) found' := by
  cases h with
  | accept unknown _ value flattened =>
    refine .accept ?_
    rintro rest rest' ⟨values, entries, paths⟩
    exact ⟨.cons value values, List.rel_append flattened entries, congrArg (unknown ++ ·) paths⟩
  | drop => exact .drop

/-- A list that keeps the order of the input keeps that of its values under other keys. -/
theorem rekeys_list {inner : Dispatch} (h : inner.Rekeys t R) :
    Rekeys t R (list .ordered inner) := by
  intro key key' value value' l l' hk hv place
  have elements := Term.elements_of_rekeyed hv
  have each (a b : Term) (hab : a.Rekeyed R b) : Run.Agree t ParseError.SameFault
      (Found.Joins (ItemsRekeyed R)) (inner key a l) (inner key' b l') :=
    (h key key' a b l l' hk hab place).mono fun _ _ => joins_of_rekeyed
  apply (agree_items ⟨.nil, .nil, rfl⟩ each elements).bind
  rintro ⟨values, flattened, unknown⟩ ⟨values', flattened', unknown'⟩ ⟨items, entries, rfl⟩
  exact .pure (.accept unknown hk (.list items) entries)

/-- The first alternative that takes a value takes it under other keys too: those before it fail on
both sides, and for data. -/
theorem rekeys_firstOf (change : KeyChange t R) {count : Nat} {ds : List Dispatch}
    (h : ∀ d ∈ ds, d.Rekeys t R) : Rekeys t R (firstOf count ds) := by
  intro key key' value value' l l' hk hv place
  have none : ParseError.SameFault (.invalid (l.path.child key) (.noAlternative value.kind count))
      (.invalid (l'.path.child key') (.noAlternative value'.kind count)) := by
    rw [Level.child_of_rekeyed change place hk]
    exact .invalid _ _ _
  have each : List.Forall₂ (fun d d' : Dispatch => Run.InStep (Run.BothHave t) ParseError.SameFault
      (Found.Rekeyed R) (d key value l) (d' key' value' l')) ds ds := by
    rw [List.forall₂_same]
    intro d hd
    exact Run.agree_iff_inStep.1 (h d hd key key' value value' l l' hk hv place)
  exact Run.agree_iff_inStep.2 (inStep_firstOf (fun _ _ same => same.isData) none each)

/-- A nested level: related values give related pairs, or none on both sides. -/
theorem rekeys_nested (change : KeyChange t R) {table : List (Key × Dispatch)}
    (tables : Level.RekeyingTable t R table) (defaults : Pairs) (mandatory : List Key) :
    Rekeys t R (nested table defaults mandatory) := by
  intro key key' value value' l l' hk hv place
  have child := Level.child_of_rekeyed change place hk
  have pairs := Term.pairs?_of_rekeyed change.refl hv
  cases hp : value.pairs? with
  | none =>
    rw [hp] at pairs
    cases hp' : value'.pairs? <;> rw [hp'] at pairs <;> cases pairs
    rw [nested_of_none hp, nested_of_none hp', child]
    exact .throw (.invalid _ _ _)
  | some ps =>
    rw [hp] at pairs
    cases hp' : value'.pairs? with
    | none => rw [hp'] at pairs; cases pairs
    | some qs =>
      rw [hp'] at pairs
      cases pairs with
      | some pairs =>
        have empty : ps.isEmpty = qs.isEmpty := by cases pairs <;> rfl
        rw [nested_of_pairs hp, nested_of_pairs hp', child, place.2, empty]
        apply ((Level.tandem_rekeyed change tables).run defaults mandatory (!qs.isEmpty) pairs
          (Level.rekeyed_start R _ _)).bind
        intro inner inner' h
        rw [h.unknown]
        exact .pure (.accept _ hk (Term.rekeyed_map_iff.2 (.inr h.accepted)) h.flattened)

end Dispatch

/-! ## Schemas -/

namespace Rule

variable {t : SymbolTable} {R : Key → Key → Prop}

theorem rekeyingTable {s : Schema} (distinct : s.Distinct)
    (h : ∀ f ∈ s.fields, f.2.dispatch.Rekeys t R) :
    Level.RekeyingTable t R (dispatchFields s.fields) where
  distinct := by
    have same : (dispatchFields s.fields).map (·.1.name) = s.fields.map (·.1.name) := by
      rw [dispatchFields_eq_map, List.map_map]
      rfl
    rw [DistinctNames, same]
    exact distinct.fields
  rekeys := forall_mem_dispatchFields h

/-- Every rule without callbacks, and without lists that sort, by induction on the rule. Sorting is
left out because `order` looks at the kinds of keys. -/
theorem rekeys_dispatch (change : KeyChange t R) {r : Rule} (named : r.Every WellNamed)
    (free : r.Every NoCallback) (ordered : r.Every KeepsOrder) : r.dispatch.Rekeys t R := by
  induction r using Rule.induct with
  | type tag => rw [dispatch]; exact Dispatch.rekeys_type change tag
  | list d inner ih =>
    obtain rfl : d = .ordered := ordered.here
    rw [dispatch]
    exact Dispatch.rekeys_list (ih named.inner free.inner ordered.inner)
  | oneOf rules ih =>
    rw [dispatch, dispatchAll_eq_map]
    apply Dispatch.rekeys_firstOf change
    intro d hd
    obtain ⟨r, hr, rfl⟩ := List.mem_map.1 hd
    exact ih r hr (named.alternative hr) (free.alternative hr) (ordered.alternative hr)
  | nested s ih =>
    rw [dispatch, s.dispatch_eq]
    apply Dispatch.rekeys_nested change
    exact rekeyingTable named.here fun f hf =>
      ih f hf (named.field hf) (free.field hf) (ordered.field hf)
  | callback c => exact (free.here : NoCallback (.callback c)).elim
  | ignore => rw [dispatch]; exact Dispatch.rekeys_ignore

end Rule

namespace Schema

variable {t : SymbolTable} {R : Key → Key → Prop}

/-- What two outputs have in common that differ in their keys. -/
structure OutputRekeyed (R : Key → Key → Prop) (out out' : Output) : Prop where
  accepted : List.Forall₂ (Term.PairRekeyed R) out.accepted out'.accepted
  flattened : List.Forall₂ (EntryRekeyed R) out.flattened out'.flattened
  unknown : out.unknown = out'.unknown

/-- Whole parses agree, for values related at any depth. -/
theorem agree_parse (change : KeyChange t R) {s : Schema} (named : s.WellNamed)
    (free : (Rule.nested s).Every Rule.NoCallback) (ordered : (Rule.nested s).Every Rule.KeepsOrder)
    {a b : Term} (h : a.Rekeyed R b) (options : Options) :
    Run.Agree t ParseError.SameFault (OutputRekeyed R) (s.parse options a) (s.parse options b) := by
  have tables : Level.RekeyingTable t R (Rule.dispatchFields s.fields) :=
    Rule.rekeyingTable named.distinct fun f hf =>
      Rule.rekeys_dispatch change (named.field hf) (free.field hf) (ordered.field hf)
  have pairs := Term.pairs?_of_rekeyed change.refl h
  cases hp : a.pairs? with
  | none =>
    rw [hp] at pairs
    cases hp' : b.pairs? <;> rw [hp'] at pairs <;> cases pairs
    rw [parse_of_none hp, parse_of_none hp']
    exact .throw (.invalid _ _ _)
  | some ps =>
    rw [hp] at pairs
    cases hp' : b.pairs? with
    | none => rw [hp'] at pairs; cases pairs
    | some qs =>
      rw [hp'] at pairs
      cases pairs with
      | some pairs =>
        rw [parse_of_pairs hp, parse_of_pairs hp']
        have runs := (Level.tandem_rekeyed change tables).run s.defaults s.mandatoryKeys true pairs
          (Level.rekeyed_start R ⟨options.path⟩ options)
        exact runs.bind fun l l' h => .pure ⟨h.accepted, h.flattened, h.unknown⟩

/-- **Symbols and texts are interchangeable as keys.** Under a schema that can be built, without
callbacks and with lists in the order of the input, take two inputs that differ in some keys of their
maps, at any depth, by a change that keeps names and turns symbols that exist into texts or texts into
them. Either both are taken or both are refused. If they are taken, the unknown paths and the paths of
the flattened entries are the same, and the accepted pairs and the values differ by the same change. If
they are refused, it is for the same kind of fault at the same path. -/
theorem keys_interchangeable (change : KeyChange t R) {s : Schema} (built : s.Built)
    (free : (Rule.nested s).Every Rule.NoCallback) (ordered : (Rule.nested s).Every Rule.KeepsOrder)
    {a b : Term} (h : a.Rekeyed R b) (options : Options) {j j' : Journal}
    (hj : j.session.symbols = t) (hj' : j'.session.symbols = t) :
    ((∃ out, (s.parse options a j).1 = .ok out) ↔ ∃ out, (s.parse options b j').1 = .ok out) ∧
    (∀ out out', (s.parse options a j).1 = .ok out → (s.parse options b j').1 = .ok out' →
      out.unknown = out'.unknown ∧
      out.flattened.map Prod.fst = out'.flattened.map Prod.fst ∧
      List.Forall₂ (Term.Rekeyed R) (out.flattened.map Prod.snd) (out'.flattened.map Prod.snd) ∧
      List.Forall₂ (Term.PairRekeyed R) out.accepted out'.accepted) ∧
    ∀ e e', (s.parse options a j).1 = .error e → (s.parse options b j').1 = .error e' →
      e.SameFault e' := by
  have results := (agree_parse change built.wellNamed free ordered h options).alike j j' hj hj'
  generalize (s.parse options a j).1 = r at results ⊢
  generalize (s.parse options b j').1 = r' at results ⊢
  cases results with
  | error same =>
    refine ⟨⟨?_, ?_⟩, ?_, ?_⟩
    · rintro ⟨_, ⟨⟩⟩
    · rintro ⟨_, ⟨⟩⟩
    · rintro _ _ ⟨⟩
    · rintro _ _ ⟨⟩ ⟨⟩
      exact same
  | @ok out out' same =>
    refine ⟨⟨fun _ => ⟨out', rfl⟩, fun _ => ⟨out, rfl⟩⟩, ?_, ?_⟩
    · rintro _ _ ⟨⟩ ⟨⟩
      have paths : List.Forall₂ Eq (out.flattened.map Prod.fst) (out'.flattened.map Prod.fst) := by
        rw [List.forall₂_map_left_iff, List.forall₂_map_right_iff]
        exact same.flattened.imp fun _ _ entry => entry.1
      refine ⟨same.unknown, ?_, ?_, same.accepted⟩
      · rwa [List.forall₂_eq_eq_eq] at paths
      · rw [List.forall₂_map_left_iff, List.forall₂_map_right_iff]
        exact same.flattened.imp fun _ _ entry => entry.2
    · rintro _ _ ⟨⟩

/-- A fleet: a main backend under a symbol, spare ones that may be given by their ports, and a note
that is copied as it is. -/
def fleet : Schema :=
  ⟨[(.symbol ⟨"main"⟩, .nested backend),
    (.text "spares", .list .ordered (.oneOf [.type .port, .nested backend])),
    (.text "note", .type .any)], [], none⟩

theorem built_fleet : fleet.Built := by
  have main := Built.empty.field (.symbol ⟨"main"⟩) every_built_backend
  have spares := main.field (.text "spares")
    (r := .list .ordered (.oneOf [.type .port, .nested backend]))
    (by simpa [Rule.Built] using every_built_backend)
  exact spares.field (.text "note") (r := .type .any) (by simp [Rule.Built])

/-- A fleet whose document spells all keys as texts, and one whose keys are symbols where they can be:
the note keeps the kind of its key. -/
theorem keys_interchangeable_fleet :
    let t : SymbolTable := ⟨[⟨"main"⟩, ⟨"host"⟩]⟩
    let j : Journal := ⟨⟨t, 0⟩, []⟩
    let host (key : Key) : Term := .map [(key, .string "a"), (.text "hots", .string "b")]
    let given (main host' : Key) : Term := .map [(main, host host'),
      (.text "spares", .list [.integer 80, host host']), (.text "note", .map [(host', .boolean true)])]
    let texts := given (.text "main") (.text "host")
    let symbols := given (.symbol ⟨"main"⟩) (.symbol ⟨"host"⟩)
    fleet.Built ∧ (Rule.nested fleet).Every Rule.NoCallback ∧ (Rule.nested fleet).Every Rule.KeepsOrder ∧
      texts.Rekeyed (Key.SameName t) symbols ∧
      ∃ out out', (fleet.parse .default texts j).1 = .ok out ∧
        (fleet.parse .default symbols j).1 = .ok out' ∧
        out.unknown = [⟨"main.hots"⟩, ⟨"spares.hots"⟩] ∧ out.unknown = out'.unknown ∧
        out.flattened.map Prod.fst = out'.flattened.map Prod.fst ∧
        List.Forall₂ (Term.PairRekeyed (Key.SameName t)) out.accepted out'.accepted := by
  intro t j host given texts symbols
  have free : (Rule.nested fleet).Every Rule.NoCallback := by
    simp [fleet, backend, Rule.NoCallback]
  have ordered : (Rule.nested fleet).Every Rule.KeepsOrder := by
    simp [fleet, backend, Rule.KeepsOrder]
  have main : Key.SameName t (.text "main") (.symbol ⟨"main"⟩) := ⟨rfl, .inr (by simp [t, Key.name])⟩
  have change : Key.SameName t (.text "host") (.symbol ⟨"host"⟩) := ⟨rfl, .inr (by simp [t, Key.name])⟩
  have same (key : Key) : Key.SameName t key key := (keyChange_sameName t).refl key
  have hosts : (host (.text "host")).Rekeyed (Key.SameName t) (host (.symbol ⟨"host"⟩)) :=
    .map (.cons change (.cons (same _) .nil)) (.cons (.same _) (.cons (.same _) .nil))
  have rekeyed : texts.Rekeyed (Key.SameName t) symbols :=
    .map (.cons main (.cons (same _) (.cons (same _) .nil)))
      (.cons hosts (.cons (.list (.cons (.same _) (.cons hosts .nil)))
        (.cons (.map (.cons change .nil) (.cons (.same _) .nil)) .nil)))
  have parsed : ∃ out out', (fleet.parse .default texts j).1 = .ok out ∧
      (fleet.parse .default symbols j).1 = .ok out' ∧
      out.unknown = [⟨"main.hots"⟩, ⟨"spares.hots"⟩] := ⟨_, _, rfl, rfl, rfl⟩
  obtain ⟨out, out', ok, ok', unknown⟩ := parsed
  have under : j.session.symbols = t := rfl
  have agree := (keys_interchangeable (keyChange_sameName t) built_fleet free ordered rekeyed .default
    under under).2.1 out out' ok ok'
  exact ⟨built_fleet, free, ordered, rekeyed, out, out', ok, ok', unknown, agree.1, agree.2.1,
    agree.2.2.2⟩

end Schema

end Conform
