import Conform.Proofs.Schema.Flattened
import Conform.Proofs.Schema.KeyKinds
import Conform.Proofs.Schema.Naming
import Conform.Proofs.Schema.Reparse
import Conform.Proofs.Tag.Written

/-!
# Dumping an output and loading it

An output that is written as JSON and read back comes with texts where it had symbols and addresses, and
with texts for all its keys. Under the same schema it is accepted all the same, and comes to what it was
before up to the kind of its keys. As for an output that is taken in again as it is, this is an induction
over rules: a validated value is found again in what JSON leaves of it, a list stays a list unless it
reads as text, and a level's pairs contribute themselves, so that no default is called for. The keys find
their rules because those of the schema are symbols that exist. What is flattened follows the accepted
tree, and so has the paths that it had.
-/

namespace Conform

/-- A term that is no symbol, or one that exists. -/
def Term.Known (symbols : SymbolTable) : Term → Prop
  | .atom a => a ∈ symbols.symbols
  | _ => True

namespace Rule

/-- A rule whose values are found again in what JSON leaves of them. -/
def Reloads : Rule → Prop
  | .type tag => tag.Reloads
  | .list d _ => d = .ordered
  | .nested _ | .ignore => True
  | .oneOf _ | .callback _ => False

/-- A rule that is no schema, or one whose defaults are made of symbols that exist. -/
def KnownDefaults (symbols : SymbolTable) : Rule → Prop
  | .nested s => ∀ d ∈ s.defaults, d.2.Every (Term.Known symbols)
  | _ => True

theorem Reloads.takesItsOwn {r : Rule} (h : r.Reloads) : r.TakesItsOwn := by
  cases r with
  | type tag => exact Tag.Reloads.takesItsOwn h
  | oneOf | callback => exact h.elim
  | list | nested | ignore => trivial

theorem Reloads.direct {r : Rule} (h : r.Reloads) : r.Direct := by
  cases r with
  | oneOf | callback => exact h.elim
  | type | list | nested | ignore => trivial

theorem Reloads.keepsOrder {r : Rule} (h : r.Reloads) : r.KeepsOrder := by
  cases r with
  | list => exact h
  | oneOf | callback => exact h.elim
  | type | nested | ignore => trivial

/-- What reloading asks of each rule: that its values are found again, its names are distinct, and the
symbols among its keys and in its defaults exist. -/
structure Ready (symbols : SymbolTable) (r : Rule) : Prop where
  reloads : r.Reloads
  named : r.WellNamed
  known : r.Known symbols
  defaults : r.KnownDefaults symbols

end Rule

theorem Key.name_text (key : Key) : (Key.text key.name).name = key.name :=
  rfl

/-- The values that a term holds occur in it. -/
theorem ListRule.within_of_mem_elements {value t : Term} (h : t ∈ elements value) :
    Term.Within t value := by
  unfold elements at h
  split at h
  · split at h
    · obtain rfl := List.mem_singleton.1 h
      exact .refl _
    · exact .item h (.refl _)
  · obtain rfl := List.mem_singleton.1 h
    exact .refl _

variable {symbols : SymbolTable}

/-! ## Levels -/

namespace Schema

variable {s : Schema}

/-- Every key has the rule of its text. -/
theorem ruleFor?_text (distinct : DistinctNames s.fields) (known : KeysIn symbols s.fields) (key : Key) :
    s.ruleFor? symbols (.text key.name) = s.ruleFor? symbols key := by
  rw [ruleFor?, ruleFor?, valueFor?_eq_valueNamed? distinct known, valueFor?_eq_valueNamed? distinct known]
  rfl

/-- The accepted pairs of a level settle to themselves with texts for keys when they have been written,
whether the level's defaults are applied or not. -/
theorem settle_written (ready : (Rule.nested s).Every (Rule.Ready symbols)) {l : Level} {j j' : Journal}
    (hj : j.session.symbols = symbols) (hj' : j'.session.symbols = symbols)
    (again : ∀ f ∈ s.fields, ∀ (key : Key) value taken, value.Every (Term.Known symbols) →
      Accepts f.2.dispatch key value l j taken → f.2.NoCharLists symbols taken →
      Accepts f.2.dispatch (.text key.name) taken.written l j' taken.textKeys)
    {defaults pairs out : Pairs}
    (settled : Account.Settled (s.alone l j) defaults s.mandatoryKeys pairs out)
    (given : ∀ p ∈ pairs ++ defaults, p.2.Every (Term.Known symbols))
    (chars : (Rule.nested s).NoCharLists symbols (.map out)) (path : Path) {defaults' : Pairs}
    (fewer : ∀ d ∈ defaults', d ∈ defaults) :
    Account.settle (s.alone l j') path defaults' s.mandatoryKeys (Term.writtenPairs out)
      = .ok (Term.textKeysOfPairs out) := by
  have own := ready.mono fun _ h => h.reloads.takesItsOwn
  have plain := own.mono fun _ => Rule.TakesItsOwn.plain
  rw [Term.writtenPairs_eq_map, Term.textKeysOfPairs_eq_map]
  have name (q : Key × Term) : (Key.text q.1.name, q.2.textKeys).1.name = q.1.name := rfl
  refine settle_each own (hj'.trans hj.symm) name settled (fun q hq => ?_) path fewer
  obtain ⟨p, hp, r, hr, taken⟩ := accepts_of_settled plain settled hq
  rw [hj] at hr
  obtain ⟨k, -, field⟩ := mem_of_ruleFor? hr
  have found : s.ruleFor? j'.session.symbols (.text q.1.name) = some r := by
    rw [hj', ruleFor?_text ready.here.named.fields ready.here.known, hr]
  exact alone_of_accepts found (again (k, r) field q.1 p.2 q.2 (given p hp) taken (chars.field hq hr))

end Schema

/-- What a rule gave it gives again, with texts for keys, when it has been written and read back. -/
theorem Rule.accepts_written {r : Rule} (ready : r.Every (Ready symbols)) {key key' : Key}
    (name : key'.name = key.name) {value taken : Term} {l : Level} {j j' : Journal}
    (hj : j.session.symbols = symbols) (hj' : j'.session.symbols = symbols)
    (given : value.Every (Term.Known symbols)) (h : Accepts r.dispatch key value l j taken)
    (chars : r.NoCharLists symbols taken) :
    Accepts r.dispatch key' taken.written l j' taken.textKeys := by
  induction r using Rule.induct generalizing key key' value taken l with
  | type tag =>
    obtain ⟨f, n, h⟩ := h
    rw [dispatch] at h
    obtain ⟨t, valid, same⟩ := Dispatch.exists_of_type h
    cases same
    have reloads : tag.Reloads := ready.here.reloads
    have known (a : Symbol) (ha : value = .atom a) : a ∈ j.session.symbols.symbols := by
      subst ha hj
      exact given.here
    have again := Tag.validate_written reloads valid known
    rw [hj, ← hj'] at again
    refine ⟨[], [], ?_⟩
    rw [dispatch, Tag.textKeys_of_canonical reloads (Tag.canonical_of_validate valid)]
    unfold Dispatch.type
    rw [again]
    rfl
  | list d inner ih =>
    obtain rfl : d = .ordered := ready.here.reloads
    have plain : inner.Every Plain := ready.inner.mono fun _ h => h.reloads.takesItsOwn.plain
    obtain ⟨values, rfl, source⟩ := accepts_list plain h
    -- Read back, the list is one of items again, and no text, because it was none before.
    have elements : ListRule.elements (.list (values.map Term.written))
        = values.map Term.written := by
      have many : Term.isCharList values = false := chars _ .here
      exact ListRule.elements_of_not_charList ((Term.isCharList_written values).trans many)
    have items (t : Term) (ht : t ∈ values) :
        Accepts inner.dispatch key' t.written l j' t.textKeys := by
      obtain ⟨u, hu, taken⟩ := source t ht
      exact ih ready.inner name (given.within (ListRule.within_of_mem_elements hu)) taken (chars.item ht)
    obtain ⟨f, n, j₁, all⟩ :=
      Dispatch.items_of_each (steady_dispatch plain) items (l.path.child key')
    refine ⟨f, n, ?_⟩
    rw [ListRule.arrange, Term.written, Term.writtenItems_eq_map, Term.textKeys,
      Term.textKeysOfItems_eq_map, dispatch, Dispatch.list, elements, Run.bind_of_ok all]
    rfl
  | nested s ih =>
    have plain : (Rule.nested s).Every Plain := ready.mono fun _ h => h.reloads.takesItsOwn.plain
    obtain ⟨pairs, out, hp, rfl, settled⟩ := (accepts_nested plain).1 h
    replace settled := Account.settled_of_settle settled
    refine (accepts_nested plain).2
      ⟨Term.writtenPairs out, Term.textKeysOfPairs out, rfl, by rw [Term.textKeys], ?_⟩
    have supplied (p : Key × Term) (mem : p ∈ pairs ++ if pairs.isEmpty then [] else s.defaults) :
        p.2.Every (Term.Known symbols) := by
      rcases List.mem_append.1 mem with mem | mem
      · exact given.within (Term.within_of_pairs? hp mem)
      · split at mem
        · cases mem
        · exact ready.here.defaults p mem
    -- A level that became empty gets no defaults when it comes back, and must not.
    have empty : (Term.writtenPairs out).isEmpty = out.isEmpty := by
      rw [Term.writtenPairs_eq_map, List.isEmpty_map]
    rw [l.path.child_congr name, empty]
    exact Schema.settle_written ready hj hj'
      (fun f hf key _ _ known h chars => ih f hf (ready.field hf) key.name_text known h chars)
      settled supplied chars _ settled.defaults_of_out
  | oneOf rules => exact (ready.here.reloads : Reloads (.oneOf rules)).elim
  | callback c => exact (ready.here.reloads : Reloads (.callback c)).elim
  | ignore =>
    obtain ⟨f, n, h⟩ := h
    cases h

/-! ## Paths -/

section Paths

variable {shown : Rule → Term → Term}

/-- A rule looks into a term only if it looks into the same with texts for keys. -/
theorem Rule.opens_of_textKeys {r : Rule} {t : Term} (h : Opens r t.textKeys) : Opens r t := by
  cases t with
  | list items =>
    rw [Term.textKeys] at h
    cases h
    exact .list _ _ items
  | map pairs =>
    rw [Term.textKeys] at h
    cases h
    exact .nested _ pairs
  | tuple items =>
    rw [Term.textKeys] at h
    cases h
  | _ => exact h

/-- Rewriting the keys as texts leaves the paths of a level, if each rule's. -/
theorem Schema.paths_of_pairs {s : Schema} (ready : (Rule.nested s).Every (Rule.Ready symbols))
    {pairs : Pairs} (each : ∀ p ∈ pairs, ∀ r, s.ruleFor? symbols p.1 = some r → ∀ path,
      (r.listing symbols shown path p.2.textKeys).map Prod.fst
        = (r.listing symbols shown path p.2).map Prod.fst) (path : Path) :
    (s.listing symbols shown path (Term.textKeysOfPairs pairs)).map Prod.fst
      = (s.listing symbols shown path pairs).map Prod.fst := by
  induction pairs with
  | nil => rfl
  | cons p ps ih =>
    obtain ⟨here, others⟩ := List.forall_mem_cons.1 each
    have key : path.child (.text p.1.name) = path.child p.1 := path.child_congr rfl
    rw [Term.textKeysOfPairs, listing, listing, key,
      ruleFor?_text ready.here.named.fields ready.here.known]
    simp only [List.map_append, List.map_cons, ih others]
    cases hr : s.ruleFor? symbols p.1 with
    | none => rfl
    | some r => simp only [Option.elim_some, here r hr]

/-- Texts for keys leave the paths of a tree as they are. -/
theorem Rule.paths_textKeys {r : Rule} (ready : r.Every (Ready symbols)) (t : Term) (path : Path) :
    (r.listing symbols shown path t.textKeys).map Prod.fst
      = (r.listing symbols shown path t).map Prod.fst := by
  induction r, t using induct_tree symbols generalizing path with
  | list d inner items ih =>
    rw [Term.textKeys, Term.textKeysOfItems_eq_map, listing, listing, listingItems_eq_flatMap,
      listingItems_eq_flatMap, List.flatMap_map, List.map_flatMap, List.map_flatMap]
    exact List.flatMap_congr fun t ht => ih t ht ready.inner path
  | nested s pairs ih =>
    rw [Term.textKeys, listing, listing]
    exact Schema.paths_of_pairs ready (fun p hp r hr => ih p hp r hr (ready.ruleFor hr)) path
  | closed r t closed =>
    rw [listing_of_not_opens closed, listing_of_not_opens fun opens => closed (opens_of_textKeys opens)]

end Paths

namespace Schema

/-- Rewriting the keys as texts leaves every path of a schema that is ready, as keys are found by
their texts. -/
theorem paths_textKeys {s : Schema} (ready : (Rule.nested s).Every (Rule.Ready symbols))
    (shown : Rule → Term → Term) (pairs : Pairs) (path : Path) :
    (s.listing symbols shown path (Term.textKeysOfPairs pairs)).map Prod.fst
      = (s.listing symbols shown path pairs).map Prod.fst :=
  paths_of_pairs ready (fun p _ _ hr => Rule.paths_textKeys (ready.ruleFor hr) p.2) path

/-- What is flattened are the pairs of the accepted tree, where lists are in the order of the input. -/
theorem flattened_of_accepted {s : Schema} (direct : (Rule.nested s).Every Rule.Direct)
    (ordered : (Rule.nested s).Every Rule.KeepsOrder) {options : Options} {input : Term} {j : Journal}
    {out : Output} (h : (s.parse options input j).1 = .ok out) :
    out.flattened = s.listing j.session.symbols (Rule.arranged j.session.symbols) ⟨options.path⟩
      out.accepted := by
  obtain ⟨given, -, arranged⟩ := exists_inOrder direct h
  rw [arranged.flattened, arranged.accepted, arranged_of_keepsOrder ordered]

/-- **Dump and reload.** Take a schema that can be built, of tags whose values are found again in JSON,
ignored fields, nested levels and lists in the order of the input. Its symbols exist, and so do those of
an input that it accepts. If in the output the names of each level are distinct, all floats are finite,
and no list of a list rule reads as text, then the output that is written as JSON and read back is
accepted again. It comes to the accepted pairs with texts for keys, and flattens to the same paths. -/
theorem reload_gives_accepted {s : Schema} (built : s.Built) (reloads : (Rule.nested s).Every Rule.Reloads)
    {options : Options} {input : Term} {j : Journal} {out : Output}
    (known : (Rule.nested s).Every (Rule.Known j.session.symbols))
    (defaults : (Rule.nested s).Every (Rule.KnownDefaults j.session.symbols))
    (given : input.Every (Term.Known j.session.symbols))
    (h : (s.parse options input j).1 = .ok out) (faithful : out.toTerm.Every Term.Faithful)
    (chars : (Rule.nested s).NoCharLists j.session.symbols out.toTerm) {j' : Journal}
    (hj' : j'.session.symbols = j.session.symbols) :
    ∃ reread out', Term.ofJson out.toTerm.toJson j'.session = (reread, j'.session) ∧
      (s.parse options reread j').1 = .ok out' ∧
      out'.accepted = Term.textKeysOfPairs out.accepted ∧
      out'.flattened.map Prod.fst = out.flattened.map Prod.fst := by
  have ready : (Rule.nested s).Every (Rule.Ready j.session.symbols) := fun r hr =>
    ⟨reloads r hr, built.wellNamed r hr, known r hr, defaults r hr⟩
  have plain : (Rule.nested s).Every Rule.Plain := reloads.mono fun _ h => h.takesItsOwn.plain
  have direct := reloads.mono fun _ => Rule.Reloads.direct
  have ordered := reloads.mono fun _ => Rule.Reloads.keepsOrder
  obtain ⟨pairs, hp, settles⟩ := settle_of_parse plain h
  have supplied (p : Key × Term) (mem : p ∈ pairs ++ s.defaults) :
      p.2.Every (Term.Known j.session.symbols) := by
    rcases List.mem_append.1 mem with mem | mem
    · exact given.within (Term.within_of_pairs? hp mem)
    · exact defaults.here p mem
  have pairs' : out.toTerm.written.pairs? = some (Term.writtenPairs out.accepted) := by
    rw [Output.toTerm, Term.written]
    rfl
  have again := settle_written ready rfl hj' (fun f hf key _ _ known h chars =>
      Rule.accepts_written (ready.field hf) key.name_text rfl hj' known h chars)
    (Account.settled_of_settle settles) supplied chars ⟨options.path⟩ fun d hd => hd
  obtain ⟨out', ok, accepted⟩ := parse_of_settle plain pairs' again
  refine ⟨out.toTerm.written, out', Term.ofJson_toJson faithful j'.session, ok, accepted, ?_⟩
  rw [flattened_of_accepted direct ordered h, flattened_of_accepted direct ordered ok, accepted, hj',
    paths_textKeys ready]

/-- A gateway: its mode, under a symbol, the addresses of its peers, and the backend it stands before. -/
def gateway : Schema :=
  ⟨[(.symbol ⟨"mode"⟩, .type .atom), (.text "peers", .list .ordered (.type .address)),
    (.text "backend", .nested backend)], [], none⟩

theorem built_gateway : gateway.Built := by
  have mode := Built.empty.field (.symbol ⟨"mode"⟩) (r := .type .atom) (by simp [Rule.Built])
  have peers := mode.field (.text "peers") (r := .list .ordered (.type .address)) (by simp [Rule.Built])
  exact peers.field (.text "backend") every_built_backend

/-- A gateway's mode and peers are texts in its dump, and are found again under their texts for keys. -/
theorem reload_gives_accepted_gateway :
    let t : SymbolTable := ⟨[⟨"mode"⟩, ⟨"fast"⟩]⟩
    let j : Journal := ⟨⟨t, 0⟩, []⟩
    let peer : Net.Address := .v4 #v[10, 0, 0, 1]
    let backend' : Term := .map [(.text "host", .string "a"), (.text "port", .integer 80)]
    let given : Term := .map [(.symbol ⟨"mode"⟩, .atom ⟨"fast"⟩),
      (.text "peers", .address peer), (.text "backend", .map [(.text "host", .string "a")])]
    gateway.Built ∧ (Rule.nested gateway).Every Rule.Reloads ∧
      (Rule.nested gateway).Every (Rule.Known t) ∧ (Rule.nested gateway).Every (Rule.KnownDefaults t) ∧
      given.Every (Term.Known t) ∧
      ∃ out, (gateway.parse .default given j).1 = .ok out ∧ out.toTerm.Every Term.Faithful ∧
        (Rule.nested gateway).NoCharLists t out.toTerm ∧
        ∃ reread out', Term.ofJson out.toTerm.toJson j.session = (reread, j.session) ∧
          (gateway.parse .default reread j).1 = .ok out' ∧
          out'.accepted = [(.text "mode", .atom ⟨"fast"⟩), (.text "peers", .list [.address peer]),
            (.text "backend", backend')] ∧
          out'.flattened.map Prod.fst = [⟨"mode"⟩, ⟨"peers"⟩, ⟨"backend"⟩, ⟨"backend.host"⟩,
            ⟨"backend.port"⟩] := by
  intro t j peer backend' given
  have tags : Tag.Reloads .atom ∧ Tag.Reloads .address ∧ Tag.Reloads .string ∧ Tag.Reloads .port :=
    ⟨trivial, trivial, trivial, trivial⟩
  have reloads : (Rule.nested gateway).Every Rule.Reloads := by
    simp [gateway, backend, Rule.Reloads, tags]
  have known : (Rule.nested gateway).Every (Rule.Known t) := by
    simp [gateway, backend, Rule.Known, KeysIn, t]
  have defaults : (Rule.nested gateway).Every (Rule.KnownDefaults t) := by
    simp [gateway, backend, Rule.KnownDefaults, Term.Known]
  have exist : given.Every (Term.Known t) := by
    simp [given, Term.Known, t]
  have parsed : ∃ out, (gateway.parse .default given j).1 = .ok out ∧
      out.accepted = [(.symbol ⟨"mode"⟩, .atom ⟨"fast"⟩), (.text "peers", .list [.address peer]),
        (.text "backend", backend')] ∧
      out.flattened.map Prod.fst = [⟨"mode"⟩, ⟨"peers"⟩, ⟨"backend"⟩, ⟨"backend.host"⟩,
        ⟨"backend.port"⟩] := ⟨_, rfl, rfl, rfl⟩
  obtain ⟨out, ok, accepted, paths⟩ := parsed
  have faithful : out.toTerm.Every Term.Faithful := by
    simp [Output.toTerm, accepted, backend', Term.Faithful, DistinctNames, Key.name]
  have chars : (Rule.nested gateway).NoCharLists t out.toTerm := by
    have many : Term.isCharList [.address peer] = false := rfl
    simp [Output.toTerm, accepted, backend', gateway, backend, ruleFor?, valueFor?, valueAt?, many, t]
  have same : j.session.symbols = j.session.symbols := rfl
  obtain ⟨reread, out', written, ok', taken, paths'⟩ :=
    reload_gives_accepted built_gateway reloads known defaults exist ok faithful chars same
  rw [accepted] at taken
  rw [paths] at paths'
  exact ⟨built_gateway, reloads, known, defaults, exist, out, ok, faithful, chars, reread, out', written,
    ok', taken, paths'⟩

end Schema

end Conform
