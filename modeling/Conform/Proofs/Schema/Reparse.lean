import Conform.Proofs.Schema.Conformance

/-!
# Taking an output in again

The accepted pairs of a call, taken in as an input under the same schema, are accepted as they are.
Each rule takes what it gave before, by induction over rules: canonical terms are passed, arranged
lists stay arranged, and the pairs of a level contribute themselves, so that nothing is left for the
defaults. Only lists that read as text must be kept out, since a list rule would take such a list for
one value.
-/

namespace Conform

namespace Rule

/-- A rule whose values it takes again. -/
def TakesItsOwn : Rule → Prop
  | .type tag => tag.TakesItsOwn
  | .list _ _ | .nested _ | .ignore => True
  | .oneOf _ | .callback _ => False

theorem TakesItsOwn.noCallback {r : Rule} (h : r.TakesItsOwn) : r.NoCallback := by
  cases r with
  | callback => exact h.elim
  | type | list | oneOf | nested | ignore => trivial

theorem TakesItsOwn.plain {r : Rule} (h : r.TakesItsOwn) : r.Plain :=
  h.noCallback.plain

/-- These items are a list that a list rule stands for, in a value of a rule. -/
inductive ListWithin (symbols : SymbolTable) (found : List Term) : Rule → Term → Prop where
  | here {d : Discipline} {inner : Rule} : ListWithin symbols found (.list d inner) (.list found)
  | item {d : Discipline} {inner : Rule} {items : List Term} {t : Term} :
    t ∈ items → ListWithin symbols found inner t →
    ListWithin symbols found (.list d inner) (.list items)
  | field {s : Schema} {r : Rule} {pairs : Pairs} {p : Key × Term} :
    p ∈ pairs → s.ruleFor? symbols p.1 = some r → ListWithin symbols found r p.2 →
    ListWithin symbols found (.nested s) (.map pairs)

/-- No list of a list rule reads as text. -/
def NoCharLists (symbols : SymbolTable) (r : Rule) (t : Term) : Prop :=
  ∀ items, ListWithin symbols items r t → Term.isCharList items = false

variable {symbols : SymbolTable}

theorem NoCharLists.item {d : Discipline} {inner : Rule} {items : List Term}
    (h : NoCharLists symbols (.list d inner) (.list items)) {t : Term} (ht : t ∈ items) :
    NoCharLists symbols inner t :=
  fun found within => h found (.item ht within)

theorem NoCharLists.field {s : Schema} {pairs : Pairs}
    (h : NoCharLists symbols (.nested s) (.map pairs)) {p : Key × Term} (hp : p ∈ pairs) {r : Rule}
    (hr : s.ruleFor? symbols p.1 = some r) : NoCharLists symbols r p.2 :=
  fun found within => h found (.field hp hr within)

@[simp]
theorem noCharLists_type {tag : Tag} {t : Term} : NoCharLists symbols (.type tag) t :=
  fun _ within => nomatch within

@[simp]
theorem noCharLists_list_iff {d : Discipline} {inner : Rule} {items : List Term} :
    NoCharLists symbols (.list d inner) (.list items) ↔
      Term.isCharList items = false ∧ ∀ t ∈ items, NoCharLists symbols inner t := by
  constructor
  · exact fun h => ⟨h items .here, fun t ht => h.item ht⟩
  · rintro ⟨here, each⟩ found within
    cases within with
    | here => exact here
    | item ht within => exact each _ ht found within

/-- A level has no list that reads as text if the values of its fields have none. -/
@[simp]
theorem noCharLists_nested_iff {s : Schema} {pairs : Pairs} :
    NoCharLists symbols (.nested s) (.map pairs) ↔
      ∀ p ∈ pairs, ∀ r, s.ruleFor? symbols p.1 = some r → NoCharLists symbols r p.2 := by
  constructor
  · exact fun h p hp r hr => h.field hp hr
  · intro each found within
    cases within with
    | field hp hr within => exact each _ hp _ hr found within

end Rule

/-! ## Items -/

/-- Items that are accepted, each for itself, make a list of what they are accepted as. -/
theorem Dispatch.items_of_each {inner : Dispatch} (steady : inner.Steady) {key : Key} {l : Level}
    {j : Journal} {given taken : Term → Term} {ts : List Term}
    (h : ∀ t ∈ ts, Accepts inner key (given t) l j (taken t)) (path : Path) :
    ∃ flattened unknown j', items path (fun t => inner key t l) (ts.map given) j
      = (.ok (ts.map taken, flattened, unknown), j') := by
  induction ts generalizing j with
  | nil => exact ⟨[], [], j, rfl⟩
  | cons t ts ih =>
    obtain ⟨⟨f, n, first⟩, rest⟩ := List.forall_mem_cons.1 h
    have quiet := steady.quiet key
    rcases hr : inner key (given t) l j with ⟨r, j₁⟩
    have same : j₁.session = j.session := by
      have := (quiet (given t) l).session j
      rwa [hr] at this
    obtain rfl : r = .ok (.accept key (taken t) f n) := by rwa [hr] at first
    obtain ⟨f', n', j₂, others⟩ := ih fun u hu => by
      obtain ⟨f, n, taken⟩ := rest u hu
      exact ⟨f, n, ((quiet (given u) l).answer j₁ j same).trans taken⟩
    refine ⟨f ++ f', n ++ n', j₂, ?_⟩
    rw [List.map_cons, items, Run.bind_of_ok hr]
    dsimp only
    rw [Run.bind_of_ok others]
    rfl

/-- Items that are accepted as they are make a list of themselves. -/
theorem Dispatch.items_of_themselves {inner : Dispatch} (steady : inner.Steady) {key : Key}
    {l : Level} {j : Journal} {ts : List Term} (h : ∀ t ∈ ts, Accepts inner key t l j t)
    (path : Path) : ∃ flattened unknown j', items path (fun t => inner key t l) ts j
      = (.ok (ts, flattened, unknown), j') := by
  have each := items_of_each steady h path
  rwa [List.map_id'] at each

/-! ## Levels -/

/-- Among these rules only an ignored field contributes nothing. -/
theorem Rule.eq_ignore_of_nothing {r : Rule} (own : r.TakesItsOwn) {key : Key} {value : Term}
    {l : Level} {j : Journal} {found : Found} (h : (r.dispatch key value l j).1 = .ok found)
    (nothing : found.pairs = []) : r = .ignore := by
  cases r with
  | type tag =>
    rw [dispatch] at h
    obtain ⟨t, -, rfl⟩ := Dispatch.exists_of_type h
    cases nothing
  | list d inner =>
    rw [dispatch] at h
    obtain ⟨values, f, n, j', -, rfl⟩ := Dispatch.exists_of_list h
    cases nothing
  | nested s =>
    rw [dispatch, s.dispatch_eq] at h
    obtain ⟨inner, rfl⟩ := Dispatch.exists_of_nested h
    cases nothing
  | ignore => rfl
  | oneOf | callback => exact own.elim

namespace Schema

variable {s : Schema} {l : Level} {j j' : Journal}

/-- What a rule accepts of a pair is all that the pair contributes. -/
theorem alone_of_accepts {q : Key × Term} {r : Rule} (hr : s.ruleFor? j.session.symbols q.1 = some r)
    {taken : Term} (h : Accepts r.dispatch q.1 q.2 l j taken) : s.alone l j q = .ok [(q.1, taken)] := by
  obtain ⟨f, n, h⟩ := h
  unfold alone
  rw [hr]
  dsimp only
  rw [h]
  rfl

/-- A default that is dropped is dropped in every session with the same symbols. -/
theorem alone_nothing (own : (Rule.nested s).Every Rule.TakesItsOwn)
    (symbols : j'.session.symbols = j.session.symbols) {d : Key × Term}
    (h : s.alone l j d = .ok []) : s.alone l j' d = .ok [] := by
  unfold alone at h ⊢
  rw [symbols]
  cases hr : s.ruleFor? j.session.symbols d.1 with
  | none => rfl
  | some r =>
    rw [hr] at h
    dsimp only at h ⊢
    obtain ⟨k, -, mem⟩ := mem_of_ruleFor? hr
    cases hd : (r.dispatch d.1 d.2 l j).1 with
    | error e => rw [hd] at h; cases h
    | ok found =>
      rw [hd] at h
      obtain rfl : r = .ignore :=
        Rule.eq_ignore_of_nothing (own.field mem).here hd (Except.ok.inj h)
      rw [Rule.dispatch]
      rfl

/-- What the rule of its key made an accepted pair of. -/
theorem accepts_of_settled (plain : (Rule.nested s).Every Rule.Plain) {defaults pairs out : Pairs}
    (settled : Account.Settled (s.alone l j) defaults s.mandatoryKeys pairs out) {q : Key × Term}
    (hq : q ∈ out) : ∃ p ∈ pairs ++ defaults, ∃ r, s.ruleFor? j.session.symbols q.1 = some r ∧
      Accepts r.dispatch q.1 p.2 l j q.2 := by
  obtain ⟨p, hp, part, hpart, mem⟩ := settled.source q hq
  obtain ⟨key, r, hr, taken⟩ := accepts_of_alone plain hpart mem
  rw [← key] at taken
  exact ⟨p, hp, r, hr, taken⟩

/-- Pairs that come of the accepted pairs of a level, and contribute pairs of the same names, settle to
these, whether the defaults are applied or not. -/
theorem settle_each (own : (Rule.nested s).Every Rule.TakesItsOwn)
    (symbols : j'.session.symbols = j.session.symbols) {given taken : Key × Term → Key × Term}
    (name : ∀ q, (taken q).1.name = q.1.name) {defaults pairs out : Pairs}
    (settled : Account.Settled (s.alone l j) defaults s.mandatoryKeys pairs out)
    (each : ∀ q ∈ out, s.alone l j' (given q) = .ok [taken q]) (path : Path) {defaults' : Pairs}
    (fewer : ∀ d ∈ defaults', d ∈ defaults) :
    Account.settle (s.alone l j') path defaults' s.mandatoryKeys (out.map given)
      = .ok (out.map taken) := by
  have plain := own.mono fun _ => Rule.TakesItsOwn.plain
  have there {k : Key} (h : named out k = true) : named (out.map taken) k = true := by
    obtain ⟨q, hq, same⟩ := named_iff.1 h
    exact named_iff.2 ⟨taken q, List.mem_map_of_mem hq, (name q).trans same⟩
  refine Account.settle_of_each each (fun d hd => ?_) fun k hk => there (settled.present k hk)
  rcases settled.filled d (fewer d hd) with has | ⟨part, hpart, sub⟩
  · exact .inl (there has)
  · cases part with
    | nil => exact .inr (alone_nothing own symbols hpart)
    | cons q qs =>
      have first : q ∈ q :: qs := List.mem_cons_self
      have key := (keepsKeys_alone plain l j d _ hpart q first).1
      exact .inl (there (named_iff.2 ⟨q, sub q first, congrArg Key.name key⟩))

/-- The accepted pairs of a level settle to themselves, whether its defaults are applied or not. -/
theorem settle_again (own : (Rule.nested s).Every Rule.TakesItsOwn)
    (symbols : j'.session.symbols = j.session.symbols)
    (again : ∀ f ∈ s.fields, ∀ key value taken, Accepts f.2.dispatch key value l j taken →
      f.2.NoCharLists j.session.symbols taken → Accepts f.2.dispatch key taken l j' taken)
    {defaults pairs out : Pairs}
    (settled : Account.Settled (s.alone l j) defaults s.mandatoryKeys pairs out)
    (chars : (Rule.nested s).NoCharLists j.session.symbols (.map out)) (path : Path)
    {defaults' : Pairs} (fewer : ∀ d ∈ defaults', d ∈ defaults) :
    Account.settle (s.alone l j') path defaults' s.mandatoryKeys out = .ok out := by
  have plain := own.mono fun _ => Rule.TakesItsOwn.plain
  have itself (q : Key × Term) (hq : q ∈ out) : s.alone l j' q = .ok [q] := by
    obtain ⟨p, -, r, hr, taken⟩ := accepts_of_settled plain settled hq
    obtain ⟨k, -, field⟩ := mem_of_ruleFor? hr
    have found : s.ruleFor? j'.session.symbols q.1 = some r := by rw [symbols, hr]
    exact alone_of_accepts found (again (k, r) field q.1 p.2 q.2 taken (chars.field hq hr))
  have settles := settle_each own symbols (fun _ => rfl) settled itself path fewer
  rwa [List.map_id'] at settles

end Schema

/-- A rule takes again what it gave, at any journal with the same symbols. -/
theorem Rule.accepts_again {r : Rule} (own : r.Every TakesItsOwn) {key : Key} {value taken : Term}
    {l : Level} {j j' : Journal} (symbols : j'.session.symbols = j.session.symbols)
    (h : Accepts r.dispatch key value l j taken) (chars : r.NoCharLists j.session.symbols taken) :
    Accepts r.dispatch key taken l j' taken := by
  induction r using Rule.induct generalizing key value taken l j j' with
  | type tag =>
    cases conforms_of_accepts (own.mono fun _ => TakesItsOwn.noCallback) h with
    | type canonical =>
      refine ⟨[], [], ?_⟩
      rw [dispatch]
      unfold Dispatch.type
      rw [Tag.validate_of_canonical own.here canonical]
      rfl
  | list d inner ih =>
    have plain : inner.Every Plain := own.inner.mono fun _ => TakesItsOwn.plain
    obtain ⟨values, rfl, source⟩ := accepts_list plain h
    have elements : ListRule.elements (.list (ListRule.arrange values d))
        = ListRule.arrange values d :=
      ListRule.elements_of_not_charList (chars _ .here)
    have items (t : Term) (ht : t ∈ ListRule.arrange values d) :
        Accepts inner.dispatch key t l j' t := by
      obtain ⟨u, -, taken⟩ := source t (ListRule.mem_of_mem_arrange ht)
      exact ih own.inner symbols taken (chars.item ht)
    obtain ⟨f, n, j₁, all⟩ :=
      Dispatch.items_of_themselves (steady_dispatch plain) items (l.path.child key)
    refine ⟨f, n, ?_⟩
    rw [dispatch, Dispatch.list, elements, Run.bind_of_ok all]
    dsimp only
    rw [ListRule.arrange_of_arranged (ListRule.arranged_arrange values d)]
    rfl
  | nested s ih =>
    have plain := own.mono fun _ => TakesItsOwn.plain
    obtain ⟨pairs, out, -, rfl, settled⟩ := (accepts_nested plain).1 h
    replace settled := Account.settled_of_settle settled
    refine (accepts_nested plain).2 ⟨out, out, rfl, rfl, ?_⟩
    exact Schema.settle_again own symbols (fun f hf _ _ _ => ih f hf (own.field hf) symbols) settled
      chars _ settled.defaults_of_out
  | oneOf rules => exact (own.here : TakesItsOwn (.oneOf rules)).elim
  | callback c => exact (own.here : TakesItsOwn (.callback c)).elim
  | ignore =>
    obtain ⟨f, n, h⟩ := h
    cases h

namespace Schema

/-- **Taking an output in again.** Under a schema whose rules take their own values, and if no list of
a list rule reads as text, the output of a call is accepted as it is. -/
theorem reparse_stable {s : Schema} (own : (Rule.nested s).Every Rule.TakesItsOwn)
    {options : Options} {input : Term} {j : Journal} {out : Output}
    (h : (s.parse options input j).1 = .ok out)
    (chars : (Rule.nested s).NoCharLists j.session.symbols out.toTerm) {j' : Journal}
    (symbols : j'.session.symbols = j.session.symbols) :
    ∃ out', (s.parse options out.toTerm j').1 = .ok out' ∧ out'.accepted = out.accepted := by
  have plain := own.mono fun _ => Rule.TakesItsOwn.plain
  cases hp : input.pairs? with
  | none =>
    rw [parse_of_none hp] at h
    cases h
  | some pairs =>
    have settled := parse_accepted plain hp options j
    rw [h] at settled
    have pairs' : out.toTerm.pairs? = some out.accepted := rfl
    have again := parse_accepted plain pairs' options j'
    rw [settle_again own symbols
      (fun f hf _ _ _ => Rule.accepts_again (own.field hf) symbols)
      (Account.settled_of_settle settled.symm) chars _ fun d hd => hd] at again
    cases hr : (s.parse options out.toTerm j').1 with
    | error e => rw [hr] at again; cases again
    | ok out' =>
      rw [hr] at again
      exact ⟨out', rfl, Except.ok.inj again⟩

/-- A cluster's output is accepted as it is: the port, which was text, is an integer by then, and the
port left to its default is there. -/
theorem reparse_stable_cluster :
    let main : Term := .map [(.text "host", .string "a"), (.text "port", .string "8080")]
    let spare : Term := .map [(.text "host", .string "b")]
    let given : Term := .map [(.text "spares", .list [spare]), (.text "main", main)]
    let taken : Pairs :=
      [(.text "spares", .list [.map [(.text "host", .string "b"), (.text "port", .integer 80)]]),
       (.text "main", .map [(.text "host", .string "a"), (.text "port", .integer 8080)])]
    (Rule.nested cluster).Every Rule.TakesItsOwn ∧
      (∃ out, (cluster.parse .default given default).1 = .ok out ∧ out.accepted = taken) ∧
      (Rule.nested cluster).NoCharLists .empty (.map taken) ∧
      ∃ out', (cluster.parse .default (.map taken) default).1 = .ok out' ∧ out'.accepted = taken := by
  intro main spare given taken
  have own : (Rule.nested cluster).Every Rule.TakesItsOwn := by
    simp [cluster, backend, Rule.TakesItsOwn, Tag.TakesItsOwn]
  have parsed : ∃ out, (cluster.parse .default given default).1 = .ok out ∧ out.accepted = taken :=
    ⟨_, rfl, rfl⟩
  have chars : (Rule.nested cluster).NoCharLists .empty (.map taken) := by
    have no_list {items : List Term} {pairs : Pairs} :
        ¬Rule.ListWithin .empty items (.nested backend) (.map pairs) := by
      rintro (_ | _ | ⟨hp, hr, within⟩)
      obtain ⟨k, -, field⟩ := mem_of_ruleFor? hr
      have leaf : ∀ f ∈ backend.fields, ∃ tag, f.2 = .type tag := by
        simp [backend]
      obtain ⟨tag, rfl⟩ := leaf _ field
      cases within
    intro items within
    cases within with
    | field hp hr within =>
      rcases List.mem_cons.1 hp with rfl | hp
      · cases (show some (Rule.list .ordered (.nested backend)) = some _ from hr)
        cases within with
        | here => rfl
        | item ht within =>
          obtain rfl := List.mem_singleton.1 ht
          exact absurd within no_list
      · obtain rfl := List.mem_singleton.1 hp
        cases (show some (Rule.nested backend) = some _ from hr)
        exact absurd within no_list
  obtain ⟨out, ok, accepted⟩ := parsed
  have term : out.toTerm = .map taken := congrArg Term.map accepted
  have same : (default : Journal).session.symbols = (default : Journal).session.symbols := rfl
  have again := reparse_stable own ok (term ▸ chars) same
  rw [term, accepted] at again
  exact ⟨own, ⟨out, ok, accepted⟩, chars, again⟩

end Schema

end Conform
