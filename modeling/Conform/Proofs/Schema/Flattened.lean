import Conform.Proofs.Level.Agree
import Conform.Proofs.Schema.Growth
import Conform.Proofs.Schema.Listing

/-!
# What is flattened

An output tells the accepted pairs twice: as a tree, and flattened, by their dotted paths. The flattened
pairs are gathered field by field while the tree is put together, those within the items of a list as
soon as an item is taken, before the list is arranged.

So a call is compared with the same call under the schema that leaves every list in the order of the
input. The two go side by side and end alike. The tree that the first one accepts is that of the second
one arranged, and what it flattens are the pairs of the tree of the second one, with arranged values.
Where the lists are in the order of the input anyway, the two trees are one. Where a list leaves
repetitions out, the pairs within these have been flattened all the same.

The `arranges_*` lemmas go through the kinds of rules.
-/

namespace Conform

/-- What became of a field in the order of the input, and with its lists arranged. -/
inductive Found.Arranged (t : SymbolTable) (r : Rule) (path : Path) (key : Key) :
    Found → Found → Prop where
  | accept {value value' : Term} {flattened flattened' : List (Path × Term)} (unknown : List Path) :
    value' = r.arranged t value → flattened' = r.listing t (Rule.arranged t) path value →
    Arranged t r path key (.accept key value flattened unknown) (.accept key value' flattened' unknown)
  | drop : Arranged t r path key .drop .drop

/-- The level at a path in the order of the input, and with its lists arranged. -/
structure Level.Arranged (t : SymbolTable) (s : Schema) (path : Path) (l l' : Level) : Prop where
  here : l.path = path
  place : l.SamePlace l'
  accepted : l'.accepted = s.arranged t l.accepted
  flattened : l'.flattened = s.listing t (Rule.arranged t) path l.accepted
  unknown : l'.unknown = l.unknown

/-- The second dispatcher finds what the first one finds, arranged. -/
def Dispatch.Arranges (t : SymbolTable) (r : Rule) (d d' : Dispatch) : Prop :=
  ∀ key value l l', l.SamePlace l' →
    Run.Agree t Eq (Found.Arranged t r (l.path.child key) key) (d key value l) (d' key value l')

/-! ## Levels -/

namespace Level

variable {t : SymbolTable} {s : Schema} {path : Path} {l l' : Level}

theorem has_of_arranged (h : Level.Arranged t s path l l') (key : Key) : l.has key = l'.has key := by
  have names (pairs : Pairs) : (pairs.any fun p => p.1.sameName key)
      = (pairs.map Prod.fst).any fun k => k.sameName key := by
    rw [List.any_map]
    rfl
  rw [has, has, names, names, h.accepted, Schema.keys_arranged]

/-- Taking finds that differ in the arrangement of their lists leaves levels that do. -/
theorem arranged_take (h : Level.Arranged t s path l l') {key : Key} {r : Rule}
    (hr : s.ruleFor? t key = some r) {found found' : Found}
    (same : Found.Arranged t r (l.path.child key) key found found') :
    Level.Arranged t s path (l.take found) (l'.take found') := by
  cases same with
  | accept unknown value flattened =>
    refine ⟨h.here, h.place, ?_, ?_, ?_⟩
    · change l'.accepted ++ [_] = s.arranged t (l.accepted ++ [_])
      rw [h.accepted, value, Schema.arranged_append, Schema.arranged, hr]
      rfl
    · change l'.flattened ++ _ :: _ = s.listing t _ path (l.accepted ++ [_])
      rw [h.flattened, value, flattened, Schema.listing_append, Schema.listing, hr, ← h.place.1, h.here]
      exact congrArg _ (List.append_nil _).symm
    · exact congrArg (· ++ unknown) h.unknown
  | drop => exact h

/-- The table of a schema in order, and its own, when each rule's dispatchers are side by side. -/
theorem tandem_arranged (h : ∀ f ∈ s.fields, Dispatch.Arranges t f.2 f.2.inOrder.dispatch f.2.dispatch) :
    Tandem t Eq Eq (Level.Arranged t s path) (Rule.dispatchFields s.inOrder.fields)
      (Rule.dispatchFields s.fields) where
  step l l' p q same hpq := by
    subst hpq
    apply agree_process
    · refine ⟨same.here, same.place, same.accepted, same.flattened, ?_⟩
      dsimp only
      rw [same.unknown, same.place.1]
    · rw [Rule.valueFor?_dispatchFields, Rule.valueFor?_dispatchFields, Schema.ruleFor?_inOrder]
      cases hr : s.ruleFor? t p.1 with
      | none => exact .none
      | some r =>
        obtain ⟨k, -, mem⟩ := Schema.mem_of_ruleFor? hr
        have found := h _ mem p.1 p.2 l l' same.place
        exact .some (found.mono fun _ _ => arranged_take same hr)
  path _ _ same := same.place.1
  has _ _ key same := has_of_arranged same key
  default _ := rfl
  missing _ := rfl

theorem arranged_start (t : SymbolTable) (s : Schema) (path : Path) (options : Options) :
    Level.Arranged t s path (.start path options) (.start path options) :=
  ⟨rfl, ⟨rfl, rfl⟩, rfl, rfl, rfl⟩

end Level

/-! ## Each kind of rule -/

namespace Dispatch

variable {t : SymbolTable}

theorem arranges_type (tag : Tag) : Arranges t (.type tag) (type tag) (type tag) := by
  intro key value l l' place
  have quiet := (steady_type tag).quiet key value
  refine .of_quiet (quiet l) (quiet l') ?_
  intro j j' hj hj'
  unfold type
  rw [hj, hj', place.1]
  cases tag.validate t value with
  | ok taken =>
    have closed : ¬(Rule.type tag).Opens taken := nofun
    exact .ok (.accept [] (Rule.arranged_of_not_opens closed).symm
      (Rule.listing_of_not_opens closed _).symm)
  | error m => exact .error rfl

theorem arranges_ignore : Arranges t .ignore ignore ignore :=
  fun _ _ _ _ _ => .pure .drop

/-- What the items of a list come to in the order of the input, and what they come to arranged. -/
def ItemsArranged (t : SymbolTable) (inner : Rule) (path : Path) (found found' : ItemsFound) : Prop :=
  found'.1 = found.1.map (inner.arranged t) ∧
    found'.2.1 = found.1.flatMap (inner.listing t (Rule.arranged t) path) ∧ found'.2.2 = found.2.2

/-- The elements of a list join what they found in one order on both sides; it is the list that is
arranged. -/
theorem joins_of_arranged {inner : Rule} {path : Path} {key : Key} {found found' : Found}
    (h : Found.Arranged t inner path key found found') :
    found.Joins (ItemsArranged t inner path) found' := by
  cases h with
  | accept unknown value flattened =>
    refine .accept ?_
    rintro rest rest' ⟨values, within, paths⟩
    refine ⟨?_, ?_, ?_⟩
    · rw [values, value, List.map_cons]
    · rw [within, flattened, List.flatMap_cons]
    · exact congrArg (unknown ++ ·) paths
  | drop => exact .drop

/-- A list: in order on one side, arranged on the other, with the entries of its elements the same. -/
theorem arranges_list {d : Discipline} {inner : Rule} {di di' : Dispatch}
    (h : Arranges t inner di di') : Arranges t (.list d inner) (list .ordered di) (list d di') := by
  intro key value l l' place
  have each (a b : Term) (hab : a = b) : Run.Agree t Eq
      (Found.Joins (ItemsArranged t inner (l.path.child key))) (di key a l) (di' key b l') := by
    subst hab
    exact (h key a l l' place).mono fun _ _ => joins_of_arranged
  have same : List.Forall₂ Eq (ListRule.elements value) (ListRule.elements value) :=
    List.forall₂_same.2 fun _ _ => rfl
  apply (agree_items ⟨rfl, rfl, rfl⟩ each same).bind
  rintro ⟨values, flattened, unknown⟩ ⟨values', flattened', unknown'⟩ ⟨items, within, paths⟩
  obtain rfl : unknown' = unknown := paths
  refine .pure (.accept unknown' ?_ ?_)
  · rw [Rule.arranged, Rule.arrangedItems_eq_map]
    exact congrArg (fun values => Term.list (ListRule.arrange values d)) items
  · rw [Rule.listing, Rule.listingItems_eq_flatMap]
    exact within

/-- A nested level: its pairs one after the other. -/
theorem arranges_nested {s : Schema}
    (h : ∀ f ∈ s.fields, Arranges t f.2 f.2.inOrder.dispatch f.2.dispatch) :
    Arranges t (.nested s) s.inOrder.dispatch s.dispatch := by
  intro key value l l' place
  rw [Schema.dispatch_eq, Schema.dispatch_eq, Schema.inOrder_defaults, Schema.inOrder_mandatoryKeys]
  cases hp : value.pairs? with
  | none =>
    rw [nested_of_none hp, nested_of_none hp, place.1]
    exact .throw rfl
  | some pairs =>
    have same : List.Forall₂ Eq pairs pairs := List.forall₂_same.2 fun _ _ => rfl
    rw [nested_of_pairs hp, nested_of_pairs hp, place.1, place.2]
    apply ((Level.tandem_arranged h).run s.defaults s.mandatoryKeys (!pairs.isEmpty) same
      (Level.arranged_start t s _ _)).bind
    intro inner inner' same
    rw [same.unknown]
    refine .pure (.accept inner.unknown ?_ ?_)
    · rw [Rule.arranged, same.accepted]
    · rw [Rule.listing, same.flattened]

end Dispatch

/-- A direct rule finds what it finds in the order of the input, arranged: by induction on the rule. -/
theorem Rule.arranges_dispatch (t : SymbolTable) {r : Rule} (direct : r.Every Direct) :
    Dispatch.Arranges t r r.inOrder.dispatch r.dispatch := by
  induction r using Rule.induct with
  | type tag => rw [inOrder, dispatch]; exact Dispatch.arranges_type tag
  | list d inner ih =>
    rw [inOrder, dispatch, dispatch]
    exact Dispatch.arranges_list (ih direct.inner)
  | oneOf rules => exact (direct.here : Direct (.oneOf rules)).elim
  | nested s ih =>
    rw [inOrder, dispatch, dispatch]
    exact Dispatch.arranges_nested fun f hf => ih f hf (direct.field hf)
  | callback c => exact (direct.here : Direct (.callback c)).elim
  | ignore => rw [inOrder, dispatch]; exact Dispatch.arranges_ignore

namespace Schema

/-- An output in the order of the input, and with its lists arranged. -/
structure OutputArranged (t : SymbolTable) (s : Schema) (path : Path) (given out : Output) : Prop where
  accepted : out.accepted = s.arranged t given.accepted
  flattened : out.flattened = s.listing t (Rule.arranged t) path given.accepted
  unknown : out.unknown = given.unknown

/-- The call that leaves lists in the order of the input, and the call itself. -/
theorem agree_parse_inOrder (t : SymbolTable) {s : Schema} (direct : (Rule.nested s).Every Rule.Direct)
    (options : Options) (input : Term) :
    Run.Agree t Eq (OutputArranged t s ⟨options.path⟩) (s.inOrder.parse options input)
      (s.parse options input) := by
  cases hp : input.pairs? with
  | none =>
    rw [parse_of_none hp, parse_of_none hp]
    exact .throw rfl
  | some pairs =>
    rw [parse_of_pairs hp, parse_of_pairs hp, inOrder_defaults, inOrder_mandatoryKeys]
    have tandem : Level.Tandem t Eq Eq (Level.Arranged t s ⟨options.path⟩) _ _ :=
      Level.tandem_arranged fun f hf => Rule.arranges_dispatch t (direct.field hf)
    have same : List.Forall₂ Eq pairs pairs := List.forall₂_same.2 fun _ _ => rfl
    apply (tandem.run s.defaults s.mandatoryKeys true same (Level.arranged_start t s _ _)).bind
    intro l l' h
    exact .pure ⟨h.accepted, h.flattened, h.unknown⟩

/-- A call that succeeds does so in the order of the input, and its output is that one arranged. -/
theorem exists_inOrder {s : Schema} (direct : (Rule.nested s).Every Rule.Direct) {options : Options}
    {input : Term} {j : Journal} {out : Output} (h : (s.parse options input j).1 = .ok out) :
    ∃ given, (s.inOrder.parse options input j).1 = .ok given ∧
      OutputArranged j.session.symbols s ⟨options.path⟩ given out := by
  have results := (agree_parse_inOrder j.session.symbols direct options input).alike j j rfl rfl
  rw [h] at results
  generalize (s.inOrder.parse options input j).1 = r at results ⊢
  cases results with
  | @ok given _ arranged => exact ⟨given, rfl, arranged⟩

/-- **Flattened mirrors the accepted tree.** Under a schema of tags, ignored fields, nested levels and
lists in the order of the input, the flattened pairs of an output are the entries of its accepted pairs:
every pair of every level once, under its path, followed by those within its value. -/
theorem flattened_mirrors_accepted {s : Schema} (direct : (Rule.nested s).Every Rule.Direct)
    (ordered : (Rule.nested s).Every Rule.KeepsOrder) {options : Options} {input : Term} {j : Journal}
    {out : Output} (h : (s.parse options input j).1 = .ok out) :
    out.flattened = s.entries j.session.symbols ⟨options.path⟩ out.accepted := by
  obtain ⟨given, -, arranged⟩ := exists_inOrder direct h
  have same : out.accepted = given.accepted := by
    rw [arranged.accepted, arranged_of_keepsOrder ordered]
  rw [arranged.flattened, same, listing_of_keepsOrder ordered]

/-- A cluster below a path: the spare backend and its default port stand under the path of the spares,
before the main one. -/
theorem flattened_mirrors_accepted_cluster :
    let main : Term := .map [(.text "host", .string "a"), (.text "port", .string "8080")]
    let spare : Term := .map [(.text "host", .string "b")]
    let given : Term := .map [(.text "spares", .list [spare]), (.text "main", main)]
    let options : Options := { Options.default with path := "app" }
    (Rule.nested cluster).Every Rule.Direct ∧ (Rule.nested cluster).Every Rule.KeepsOrder ∧
      ∃ out, (cluster.parse options given default).1 = .ok out ∧
        out.flattened = cluster.entries .empty ⟨"app"⟩ out.accepted ∧
        out.flattened.map Prod.fst = [⟨"app.spares"⟩, ⟨"app.spares.host"⟩, ⟨"app.spares.port"⟩,
          ⟨"app.main"⟩, ⟨"app.main.host"⟩, ⟨"app.main.port"⟩] := by
  intro main spare given options
  have direct : (Rule.nested cluster).Every Rule.Direct := by
    simp [cluster, backend, Rule.Direct]
  have ordered : (Rule.nested cluster).Every Rule.KeepsOrder := by
    simp [cluster, backend, Rule.KeepsOrder]
  have parsed : ∃ out, (cluster.parse options given default).1 = .ok out ∧
      out.flattened.map Prod.fst = [⟨"app.spares"⟩, ⟨"app.spares.host"⟩, ⟨"app.spares.port"⟩,
        ⟨"app.main"⟩, ⟨"app.main.host"⟩, ⟨"app.main.port"⟩] := ⟨_, rfl, rfl⟩
  obtain ⟨out, ok, paths⟩ := parsed
  exact ⟨direct, ordered, out, ok, flattened_mirrors_accepted direct ordered ok, paths⟩

/-- **What is flattened under any discipline.** The accepted tree is the one that the schema with every
list in the order of the input accepts, arranged. All its entries are flattened, each once, and besides
them the entries within the items that were left out, each of which repeats the path and the value of an
entry of the tree. So the flattened pairs are the entries of the tree, up to their order, if and only if
nothing was left out that has entries; lists that are no more than sorted leave nothing out. -/
theorem flattened_tells_accepted {s : Schema} (direct : (Rule.nested s).Every Rule.Direct)
    {options : Options} {input : Term} {j : Journal} {out : Output}
    (h : (s.parse options input j).1 = .ok out) :
    ∃ given, (s.inOrder.parse options input j).1 = .ok given ∧
      out.accepted = s.arranged j.session.symbols given.accepted ∧
      out.flattened.Perm (s.entries j.session.symbols ⟨options.path⟩ out.accepted ++
        s.surplus j.session.symbols ⟨options.path⟩ given.accepted) ∧
      (∀ e ∈ s.surplus j.session.symbols ⟨options.path⟩ given.accepted,
        ∃ f ∈ s.entries j.session.symbols ⟨options.path⟩ out.accepted, SameEntry e f) ∧
      (out.flattened.Perm (s.entries j.session.symbols ⟨options.path⟩ out.accepted) ↔
        s.surplus j.session.symbols ⟨options.path⟩ given.accepted = []) ∧
      ((Rule.nested s).Every Rule.KeepsAll →
        s.surplus j.session.symbols ⟨options.path⟩ given.accepted = []) := by
  obtain ⟨given, ok, arranged⟩ := exists_inOrder direct h
  have all : out.flattened.Perm (s.entries j.session.symbols ⟨options.path⟩ out.accepted ++
      s.surplus j.session.symbols ⟨options.path⟩ given.accepted) := by
    rw [arranged.flattened, arranged.accepted]
    exact perm_listing s given.accepted ⟨options.path⟩
  refine ⟨given, ok, arranged.accepted, all, ?_, ⟨?_, ?_⟩, ?_⟩
  · rw [arranged.accepted]
    exact repeated_of_surplus s given.accepted ⟨options.path⟩
  · intro same
    have lengths := (same.symm.trans all).length_eq
    rw [List.length_append] at lengths
    exact List.eq_nil_of_length_eq_zero (by omega)
  · intro nothing
    rwa [nothing, List.append_nil] at all
  · intro keeps
    exact surplus_of_keepsAll keeps given.accepted ⟨options.path⟩

/-- A pool: backends, sorted and each of them once. -/
def pool : Schema :=
  ⟨[(.text "members", .list .unique (.nested backend))], [], none⟩

/-- A pool of two backends, one of them given twice, once with the port that is the default. What was
within the second one is flattened too. -/
theorem flattened_tells_accepted_pool :
    let a : Term := .map [(.text "host", .string "a"), (.text "port", .integer 80)]
    let b : Term := .map [(.text "host", .string "b"), (.text "port", .integer 80)]
    let given : Term := .map [(.text "members", .list [a, b, .map [(.text "host", .string "b")]])]
    (Rule.nested pool).Every Rule.Direct ∧
      ∃ out, (pool.parse .default given default).1 = .ok out ∧
        out.accepted = [(.text "members", .list [a, b])] ∧
        out.flattened.Perm (pool.entries .empty ⟨""⟩ out.accepted ++
          [(⟨"members.host"⟩, .string "b"), (⟨"members.port"⟩, .integer 80)]) := by
  intro a b given
  have direct : (Rule.nested pool).Every Rule.Direct := by
    simp [pool, backend, Rule.Direct]
  have sorted : [a, b, b].mergeSort Term.le = [a, b, b] :=
    List.mergeSort_of_pairwise (by decide +kernel)
  have kept : ListRule.arrange [a, b, b] .unique = [a, b] := by
    rw [ListRule.arrange, sorted]
    rfl
  have surplus : pool.surplus .empty ⟨""⟩ [(.text "members", .list [a, b, b])]
      = [(⟨"members.host"⟩, .string "b"), (⟨"members.port"⟩, .integer 80)] := by
    have left : ListRule.dropped [a, b, b] .unique = [b] := by
      rw [ListRule.dropped, sorted]
      rfl
    change (ListRule.dropped [a, b, b] .unique).flatMap
      ((Rule.nested backend).entries .empty ⟨"members"⟩) ++ [] = _
    rw [left]
    rfl
  have parsed : ∃ out, (pool.parse .default given default).1 = .ok out ∧
      out.accepted = [(.text "members", .list (ListRule.arrange [a, b, b] .unique))] := ⟨_, rfl, rfl⟩
  obtain ⟨out, ok, accepted⟩ := parsed
  obtain ⟨tree, inOrder, -, all, -⟩ := flattened_tells_accepted direct ok
  cases inOrder
  refine ⟨direct, out, ok, accepted.trans (by rw [kept]), ?_⟩
  rw [← surplus]
  exact all

/-- A backend that is given twice is one member of the pool, and is flattened twice. -/
theorem flattened_tells_left_out :
    let b : Term := .map [(.text "host", .string "b"), (.text "port", .integer 80)]
    let given : Term := .map [(.text "members", .list [b, b])]
    (Rule.nested pool).Every Rule.Direct ∧
      ∃ out, (pool.parse .default given default).1 = .ok out ∧
        out.accepted = [(.text "members", .list [b])] ∧
        pool.entries .empty ⟨""⟩ out.accepted = [(⟨"members"⟩, .list [b]),
          (⟨"members.host"⟩, .string "b"), (⟨"members.port"⟩, .integer 80)] ∧
        out.flattened = [(⟨"members"⟩, .list [b]),
          (⟨"members.host"⟩, .string "b"), (⟨"members.port"⟩, .integer 80),
          (⟨"members.host"⟩, .string "b"), (⟨"members.port"⟩, .integer 80)] ∧
        ¬out.flattened.Perm (pool.entries .empty ⟨""⟩ out.accepted) := by
  intro b given
  have direct : (Rule.nested pool).Every Rule.Direct := by
    simp [pool, backend, Rule.Direct]
  have kept : ListRule.arrange [b, b] .unique = [b] := by
    rw [ListRule.arrange, List.mergeSort_of_pairwise (by decide +kernel)]
    rfl
  have parsed : ∃ out, (pool.parse .default given default).1 = .ok out ∧
      out.accepted = [(.text "members", .list (ListRule.arrange [b, b] .unique))] ∧
      out.flattened = [(⟨"members"⟩, .list (ListRule.arrange [b, b] .unique)),
        (⟨"members.host"⟩, .string "b"), (⟨"members.port"⟩, .integer 80),
        (⟨"members.host"⟩, .string "b"), (⟨"members.port"⟩, .integer 80)] := ⟨_, rfl, rfl, rfl⟩
  obtain ⟨out, ok, accepted, flattened⟩ := parsed
  rw [kept] at accepted flattened
  have entries : pool.entries .empty ⟨""⟩ out.accepted = [(⟨"members"⟩, .list [b]),
      (⟨"members.host"⟩, .string "b"), (⟨"members.port"⟩, .integer 80)] := by
    rw [accepted]
    rfl
  refine ⟨direct, out, ok, accepted, entries, flattened, ?_⟩
  intro same
  have lengths := same.length_eq
  rw [flattened, entries] at lengths
  cases lengths

end Schema

end Conform
