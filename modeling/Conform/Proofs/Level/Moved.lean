import Conform.Proofs.Level.Agree
import Conform.Proofs.Rule.Depth

/-!
# Levels at other places

A run puts the path of its level in front of keys, and the paths that come of it into entries and
errors. It looks at none of them, and neither at what stands in the level apart from the names that were
accepted. Only a callback may do so, if the level is shown to it. Without such callbacks, a level at one
place and the same level at another one go side by side, and end with the same values under paths that
correspond.

How paths correspond is a parameter `Q`. It has to be kept when both paths are extended by a key, at
least by a key that the run meets; `K` says which keys these are.

The `moves_*` lemmas go through the kinds of rules; `moved_take` is the step that a level shares
with all of them.
-/

namespace Conform

/-- A rule that is no callback to which the level is shown. -/
def Rule.NoContext : Rule → Prop
  | .callback (.contextual _) => False
  | _ => True

/-! ## The keys that a run meets -/

/-- What a level may dispatch: the pairs of a value, if it has any, and the defaults. -/
def Schema.offered (s : Schema) (value : Term) : Pairs :=
  value.pairs?.getD [] ++ s.defaults

/-- The last key is one of those that a run through the value of the first one by this rule may put into
a path: a key of a level, a mandatory one, or one that a callback puts in place of others. -/
inductive Rule.Meets : Rule → Key → Term → Key → Prop where
  | item {d : Discipline} {inner : Rule} {key : Key} {value t : Term} {k : Key} :
    t ∈ ListRule.elements value → Meets inner key t k → Meets (.list d inner) key value k
  | alternative {rules : List Rule} {r : Rule} {key : Key} {value : Term} {k : Key} :
    r ∈ rules → Meets r key value k → Meets (.oneOf rules) key value k
  | renamed {c : Callback} {key k : Key} {value new : Term} {l : Level} {session : Session} :
    (c.apply key value l session).1 = some (.rename k new) → Meets (.callback c) key value k
  | replaced {c : Callback} {key : Key} {value : Term} {l : Level} {session : Session} {pairs : Pairs}
    {p : Key × Term} : (c.apply key value l session).1 = some (.replaceAll pairs) →
    p ∈ pairs → Meets (.callback c) key value p.1
  | key {s : Schema} {key : Key} {value : Term} {p : Key × Term} :
    p ∈ s.offered value → Meets (.nested s) key value p.1
  | field {s : Schema} {key : Key} {value : Term} {p : Key × Term} {f : Key × Rule} {k : Key} :
    p ∈ s.offered value → f ∈ s.fields → f.1.name = p.1.name → Meets f.2 p.1 p.2 k →
    Meets (.nested s) key value k
  | mandatory {s : Schema} {key : Key} {value : Term} {k : Key} :
    k ∈ s.mandatoryKeys → Meets (.nested s) key value k

/-- All keys that the rule meets in the value are such keys. -/
def Rule.MeetsOnly (K : Key → Prop) (r : Rule) (key : Key) (value : Term) : Prop :=
  ∀ k, r.Meets key value k → K k

/-- The keys that a verdict puts in place of others are such keys. -/
def Verdict.PutsOnly (K : Key → Prop) : Verdict → Prop
  | .rename key _ => K key
  | .replaceAll pairs => ∀ p ∈ pairs, K p.1
  | _ => True

/-- All keys that a level of this schema meets with the pair are such keys. -/
@[mk_iff]
structure Schema.PairMeetsOnly (K : Key → Prop) (s : Schema) (p : Key × Term) : Prop where
  key : K p.1
  within : ∀ f ∈ s.fields, f.1.name = p.1.name → f.2.MeetsOnly K p.1 p.2

/-- All keys that a level of this schema meets in the value are such keys. -/
@[mk_iff]
structure Schema.MeetsOnly (K : Key → Prop) (s : Schema) (value : Term) : Prop where
  offered : ∀ p ∈ s.offered value, s.PairMeetsOnly K p
  mandatory : ∀ k ∈ s.mandatoryKeys, K k

namespace Rule

variable {K : Key → Prop} {key : Key} {value : Term}

@[simp]
theorem meetsOnly_type {tag : Tag} : (Rule.type tag).MeetsOnly K key value :=
  nofun

@[simp]
theorem meetsOnly_ignore : Rule.ignore.MeetsOnly K key value :=
  nofun

@[simp]
theorem meetsOnly_list_iff {d : Discipline} {inner : Rule} :
    (Rule.list d inner).MeetsOnly K key value ↔
      ∀ t ∈ ListRule.elements value, inner.MeetsOnly K key t := by
  constructor
  · exact fun h t ht k meets => h k (.item ht meets)
  · rintro h k (⟨ht, meets⟩)
    exact h _ ht k meets

@[simp]
theorem meetsOnly_oneOf_iff {rules : List Rule} :
    (Rule.oneOf rules).MeetsOnly K key value ↔ ∀ r ∈ rules, r.MeetsOnly K key value := by
  constructor
  · exact fun h r hr k meets => h k (.alternative hr meets)
  · intro h k meets
    cases meets with
    | alternative hr meets => exact h _ hr k meets

/-- A callback meets only keys of `K` when no verdict of it puts a key outside `K`. -/
theorem meetsOnly_callback_iff {c : Callback} :
    (Rule.callback c).MeetsOnly K key value ↔ ∀ l session v,
      (c.apply key value l session).1 = some v → v.PutsOnly K := by
  constructor
  · intro h l session v decided
    cases v with
    | rename k new => exact h k (.renamed decided)
    | replaceAll pairs => exact fun p hp => h p.1 (.replaced decided hp)
    | accept | replace | reject | error => trivial
  · intro h k meets
    cases meets with
    | renamed decided => exact h _ _ _ decided
    | replaced decided hp => exact h _ _ _ decided _ hp

@[simp]
theorem meetsOnly_nested_iff {s : Schema} :
    (Rule.nested s).MeetsOnly K key value ↔ s.MeetsOnly K value := by
  constructor
  · intro h
    refine ⟨fun p hp => ?_, fun k hk => h k (.mandatory hk)⟩
    exact ⟨h _ (.key hp), fun f hf name k meets => h k (.field hp hf name meets)⟩
  · rintro ⟨offered, mandatory⟩ k meets
    cases meets with
    | key hp => exact (offered _ hp).key
    | field hp hf name meets => exact (offered _ hp).within _ hf name k meets
    | mandatory hk => exact mandatory k hk

end Rule

theorem Schema.PairMeetsOnly.all (s : Schema) (p : Key × Term) : s.PairMeetsOnly (fun _ => True) p :=
  ⟨trivial, fun _ _ _ _ _ => trivial⟩

namespace Schema.MeetsOnly

variable {K : Key → Prop} {s : Schema} {value : Term}

theorem pairs (h : s.MeetsOnly K value) {pairs : Pairs} (hp : value.pairs? = some pairs) :
    ∀ p ∈ pairs, s.PairMeetsOnly K p := by
  intro p mem
  refine h.offered p (List.mem_append_left _ ?_)
  rwa [hp]

theorem defaults (h : s.MeetsOnly K value) : ∀ d ∈ s.defaults, s.PairMeetsOnly K d :=
  fun d hd => h.offered d (List.mem_append_right _ hd)

theorem all (s : Schema) (value : Term) : s.MeetsOnly (fun _ => True) value :=
  ⟨fun p _ => .all s p, fun _ _ => trivial⟩

end Schema.MeetsOnly

/-! ## Paths that correspond -/

/-- Below these two paths, the fields with such keys have paths that correspond. -/
def FieldsCorrespond (K : Key → Prop) (Q : Path → Path → Prop) (p p' : Path) : Prop :=
  ∀ key, K key → Q (p.child key) (p'.child key)

/-- Paths that correspond still do when both are extended by such a key. -/
def KeptBelow (K : Key → Prop) (Q : Path → Path → Prop) : Prop :=
  ∀ p p', Q p p' → FieldsCorrespond K Q p p'

/-- A value at two paths that correspond. -/
def EntryMoved (Q : Path → Path → Prop) (e e' : Path × Term) : Prop :=
  Q e.1 e'.1 ∧ e.2 = e'.2

/-- One failure at two paths that correspond. -/
inductive ParseError.Moved (Q : Path → Path → Prop) : ParseError → ParseError → Prop where
  | invalid {p p' : Path} (reason : Reason) : Q p p' → Moved Q (.invalid p reason) (.invalid p' reason)
  | missing {p p' : Path} : Q p p' → Moved Q (.missing p) (.missing p')
  | refused {p p' : Path} (detail : Term) : Q p p' → Moved Q (.refused p detail) (.refused p' detail)
  | callbackFault {p p' : Path} : Q p p' → Moved Q (.callbackFault p) (.callbackFault p')

/-- What became of one field at two places. -/
inductive Found.Moved (K : Key → Prop) (Q : Path → Path → Prop) : Found → Found → Prop where
  | accept {key : Key} (value : Term) {flattened flattened' : List (Path × Term)}
    {unknown unknown' : List Path} : K key → List.Forall₂ (EntryMoved Q) flattened flattened' →
    List.Forall₂ Q unknown unknown' →
    Moved K Q (.accept key value flattened unknown) (.accept key value flattened' unknown')
  | drop : Moved K Q .drop .drop
  | replaceAll {pairs : Pairs} : (∀ p ∈ pairs, K p.1) → Moved K Q (.replaceAll pairs) (.replaceAll pairs)

/-- One level at two places. `U` says how the unknown paths correspond: those that were there before
the two went side by side need not be the same. -/
structure Level.Moved (K : Key → Prop) (Q : Path → Path → Prop) (U : List Path → List Path → Prop)
    (l l' : Level) : Prop where
  fields : FieldsCorrespond K Q l.path l'.path
  accepted : l.accepted = l'.accepted
  flattened : List.Forall₂ (EntryMoved Q) l.flattened l'.flattened
  unknown : U l.unknown l'.unknown

/-- Unknown paths still correspond when paths that correspond come behind them. -/
def GoesOn (Q : Path → Path → Prop) (U : List Path → List Path → Prop) : Prop :=
  ∀ u u' v v', U u u' → List.Forall₂ Q v v' → U (u ++ v) (u' ++ v')

variable {K : Key → Prop} {Q : Path → Path → Prop} {U : List Path → List Path → Prop}

theorem goesOn_forall₂ : GoesOn Q (List.Forall₂ Q) :=
  fun _ _ _ _ h h' => List.rel_append h h'

theorem ParseError.Moved.isData {e e' : ParseError} (h : e.Moved Q e') : e.isData = e'.isData := by
  cases h <;> rfl

/-! ## Levels -/

/-- The rule makes the same of a field at two places. -/
def Rule.Moves (K : Key → Prop) (Q : Path → Path → Prop) (r : Rule) : Prop :=
  ∀ key value (l l' : Level), K key → r.MeetsOnly K key value → FieldsCorrespond K Q l.path l'.path →
    Run.InStep Eq (ParseError.Moved Q) (Found.Moved K Q) (r.dispatch key value l)
      (r.dispatch key value l')

namespace Level

/-- Levels that are moved images of one another stay so when they take moved images of one find. -/
theorem moved_take (goesOn : GoesOn Q U) {l l' : Level} (h : l.Moved K Q U l') {found found' : Found}
    (same : found.Moved K Q found') : (l.take found).Moved K Q U (l'.take found') := by
  cases same with
  | @accept key value _ _ _ _ hk flattened unknown =>
    refine ⟨h.fields, ?_, ?_, goesOn _ _ _ _ h.unknown unknown⟩
    · exact congrArg (· ++ [(key, value)]) h.accepted
    · exact List.rel_append h.flattened (.cons ⟨h.fields key hk, rfl⟩ flattened)
  | drop => exact h
  | @replaceAll pairs hk =>
    refine ⟨h.fields, rfl, ?_, h.unknown⟩
    rw [take, take, List.forall₂_map_left_iff, List.forall₂_map_right_iff, List.forall₂_same]
    intro p hp
    exact ⟨h.fields p.1 (hk p hp), rfl⟩

/-- A level at two places, going through the same pairs. -/
theorem sideBySide_moved (goesOn : GoesOn Q U) {s : Schema} (h : ∀ f ∈ s.fields, f.2.Moves K Q)
    (defaults : ∀ d ∈ s.defaults, s.PairMeetsOnly K d) (mandatory : ∀ k ∈ s.mandatoryKeys, K k) :
    SideBySide Eq (ParseError.Moved Q) (fun p q => p = q ∧ s.PairMeetsOnly K p) (Level.Moved K Q U)
      (Rule.dispatchFields s.fields) (Rule.dispatchFields s.fields) s.defaults s.mandatoryKeys where
  step := by
    rintro l l' p _ same ⟨rfl, meets⟩
    apply inStep_process
    · refine ⟨same.fields, same.accepted, same.flattened, goesOn _ _ _ _ same.unknown ?_⟩
      exact .cons (same.fields p.1 meets.key) .nil
    · rintro session _ rfl
      rw [Rule.valueFor?_dispatchFields]
      cases hr : s.ruleFor? session.symbols p.1 with
      | none => exact .none
      | some r =>
        obtain ⟨k, name, mem⟩ := Schema.mem_of_ruleFor? hr
        have found := h _ mem p.1 p.2 l l' meets.key (meets.within _ mem name) same.fields
        exact .some (found.mono (fun _ _ => id) fun _ _ => moved_take goesOn same)
  has l l' key same := by rw [has, has, same.accepted]
  default d hd := ⟨rfl, defaults d hd⟩
  missing l l' same key hk := .missing (same.fields key (mandatory key hk))

theorem moved_start {path path' : Path} (h : FieldsCorrespond K Q path path')
    (options options' : Options) :
    (start path options).Moved K Q (List.Forall₂ Q) (start path' options') :=
  ⟨h, rfl, .nil, .nil⟩

end Level

/-- A run through pairs at one place and at another. -/
theorem Schema.inStep_run {s : Schema} (h : ∀ f ∈ s.fields, f.2.Moves K Q) {value : Term} {pairs : Pairs}
    (hp : value.pairs? = some pairs) (meets : s.MeetsOnly K value) {path path' : Path}
    (corresponds : FieldsCorrespond K Q path path') (options options' : Options) (fill : Bool) :
    Run.InStep Eq (ParseError.Moved Q) (Level.Moved K Q (List.Forall₂ Q))
      (Level.run (Rule.dispatchFields s.fields) s.defaults s.mandatoryKeys fill pairs
        (.start path options))
      (Level.run (Rule.dispatchFields s.fields) s.defaults s.mandatoryKeys fill pairs
        (.start path' options')) := by
  have same : List.Forall₂ (fun p q => p = q ∧ s.PairMeetsOnly K p) pairs pairs :=
    List.forall₂_same.2 fun p mem => ⟨rfl, meets.pairs hp p mem⟩
  have sides := Level.sideBySide_moved goesOn_forall₂ h meets.defaults meets.mandatory
  exact sides.run fill same (Level.moved_start corresponds options options')

/-! ## Each kind of rule -/

namespace Rule

theorem moves_type (tag : Tag) : (Rule.type tag).Moves K Q := by
  intro key value l l' hk _ fields j j' hj
  rw [dispatch, Dispatch.type, Dispatch.type, hj]
  cases tag.validate j'.session.symbols value with
  | ok t => exact ⟨hj, .ok (.accept t hk .nil .nil)⟩
  | error m => exact ⟨hj, .error (.invalid _ (fields key hk))⟩

/-- A callback to which the level is not shown decides the same at both places. -/
theorem moves_callback {c : Callback} (free : (Rule.callback c).NoContext) :
    (Rule.callback c).Moves K Q := by
  intro key value l l' hk meets fields j j' hj
  have same : c.apply key value l' = c.apply key value l := by
    cases c with
    | value | keyed => rfl
    | contextual => exact free.elim
  have here := fields key hk
  rw [dispatch]
  rcases hv : c.apply key value l j.session with ⟨_ | v, session⟩
  · have hv' : c.apply key value l' j'.session = (none, session) := by rw [same, ← hj, hv]
    rw [Dispatch.callback_of_none hv, Dispatch.callback_of_none hv']
    exact ⟨rfl, .error (.callbackFault here)⟩
  · have hv' : c.apply key value l' j'.session = (some v, session) := by rw [same, ← hj, hv]
    have decided : (c.apply key value l j.session).1 = some v := congrArg Prod.fst hv
    rw [Dispatch.callback_of_some hv, Dispatch.callback_of_some hv']
    refine ⟨rfl, ?_⟩
    cases v with
    | accept => exact .ok (.accept value hk .nil .nil)
    | replace new => exact .ok (.accept new hk .nil .nil)
    | rename k new => exact .ok (.accept new (meets k (.renamed decided)) .nil .nil)
    | reject => exact .error (.invalid _ here)
    | error detail => exact .error (.refused detail here)
    | replaceAll pairs => exact .ok (.replaceAll fun p hp => meets p.1 (.replaced decided hp))

/-- What the items of one list come to at two places. -/
def ItemsMoved (Q : Path → Path → Prop) (found found' : ItemsFound) : Prop :=
  found.1 = found'.1 ∧ List.Forall₂ (EntryMoved Q) found.2.1 found'.2.1 ∧
    List.Forall₂ Q found.2.2 found'.2.2

theorem matches_of_moved {path path' : Path} (h : Q path path') {found found' : Found}
    (same : found.Moved K Q found') :
    found.Matches (ItemsMoved Q) (ParseError.Moved Q) path path' found' := by
  cases same with
  | accept value _ flattened unknown =>
    refine .joins (.accept ?_)
    rintro rest rest' ⟨values, entries, paths⟩
    exact ⟨congrArg (value :: ·) values, List.rel_append flattened entries,
      List.rel_append unknown paths⟩
  | drop => exact .joins .drop
  | replaceAll _ => exact .replaceAll (.invalid _ h)

/-- A list rule moves what its inner rule moves, element by element. -/
theorem moves_list {d : Discipline} {inner : Rule} (h : inner.Moves K Q) :
    (Rule.list d inner).Moves K Q := by
  intro key value l l' hk meets fields
  rw [dispatch]
  have each (a b : Term) (hab : a = b ∧ a ∈ ListRule.elements value) : Run.InStep Eq (ParseError.Moved Q)
      (Found.Matches (ItemsMoved Q) (ParseError.Moved Q) (l.path.child key) (l'.path.child key))
      (inner.dispatch key a l) (inner.dispatch key b l') := by
    obtain ⟨rfl, mem⟩ := hab
    have found := h key a l l' hk (meetsOnly_list_iff.1 meets a mem) fields
    exact found.mono (fun _ _ => id) fun _ _ => matches_of_moved (fields key hk)
  have same : List.Forall₂ (fun a b => a = b ∧ a ∈ ListRule.elements value) (ListRule.elements value)
      (ListRule.elements value) := List.forall₂_same.2 fun t mem => ⟨rfl, mem⟩
  apply (Dispatch.inStep_items ⟨rfl, .nil, .nil⟩ each same).bind
  rintro ⟨values, flattened, unknown⟩ ⟨_, flattened', unknown'⟩ ⟨rfl, entries, paths⟩
  exact .pure (.accept _ hk entries paths)

/-- Alternatives move together: one is given up on both sides or on neither, as a moved fault is
about the data iff the other is. -/
theorem moves_oneOf {rules : List Rule} (h : ∀ r ∈ rules, r.Moves K Q) : (Rule.oneOf rules).Moves K Q := by
  intro key value l l' hk meets fields
  rw [dispatch]
  refine Dispatch.inStep_firstOf (fun _ _ => ParseError.Moved.isData) (.invalid _ (fields key hk)) ?_
  rw [dispatchAll_eq_map, List.forall₂_map_left_iff, List.forall₂_map_right_iff, List.forall₂_same]
  intro r hr
  exact h r hr key value l l' hk (meetsOnly_oneOf_iff.1 meets r hr) fields

/-- A nested rule moves when its fields do. The path of the inner level goes through `KeptBelow`. -/
theorem moves_nested (kept : KeptBelow K Q) {s : Schema} (h : ∀ f ∈ s.fields, f.2.Moves K Q) :
    (Rule.nested s).Moves K Q := by
  intro key value l l' hk meets fields
  have here := fields key hk
  rw [dispatch, s.dispatch_eq]
  cases hp : value.pairs? with
  | none =>
    rw [Dispatch.nested_of_none hp, Dispatch.nested_of_none hp]
    exact .throw (.invalid _ here)
  | some pairs =>
    rw [Dispatch.nested_of_pairs hp, Dispatch.nested_of_pairs hp]
    apply (s.inStep_run h hp (meetsOnly_nested_iff.1 meets) (kept _ _ here) l.options l'.options (!pairs.isEmpty)).bind
    intro inner inner' same
    rw [same.accepted]
    exact .pure (.accept _ hk same.flattened same.unknown)

/-- A rule without callbacks to which the level is shown makes the same of a field at both places. -/
theorem moves (kept : KeptBelow K Q) {r : Rule} (free : r.Every NoContext) : r.Moves K Q := by
  induction r using Rule.induct with
  | type tag => exact moves_type tag
  | list d inner ih => exact moves_list (ih free.inner)
  | oneOf rules ih => exact moves_oneOf fun r hr => ih r hr (free.alternative hr)
  | nested s ih => exact moves_nested kept fun f hf => ih f hf (free.field hf)
  | callback c => exact moves_callback free.here
  | ignore =>
    intro key value l l' _ _ _
    rw [dispatch]
    exact .pure .drop

end Rule

/-! ## At the same path -/

section SamePath

theorem keptBelow_eq (K : Key → Prop) : KeptBelow K Eq := by
  rintro p _ rfl key _
  rfl

theorem entriesMoved_refl (es : List (Path × Term)) : List.Forall₂ (EntryMoved Eq) es es :=
  List.forall₂_same.2 fun _ _ => ⟨rfl, rfl⟩

theorem entries_eq_of_moved {es es' : List (Path × Term)} (h : List.Forall₂ (EntryMoved Eq) es es') :
    es = es' := by
  rw [← List.forall₂_eq_eq_eq]
  exact h.imp fun _ _ same => Prod.ext same.1 same.2

theorem paths_eq_of_moved {ps ps' : List Path} (h : List.Forall₂ Eq ps ps') : ps = ps' := by
  rwa [List.forall₂_eq_eq_eq] at h

theorem ParseError.eq_of_moved {e e' : ParseError} (h : e.Moved Eq e') : e = e' := by
  cases h with
  | invalid reason same => rw [same]
  | missing same => rw [same]
  | refused detail same => rw [same]
  | callbackFault same => rw [same]

end SamePath

/-! ## Calls -/

/-- One output at two places. -/
structure Output.Moved (Q : Path → Path → Prop) (out out' : Output) : Prop where
  accepted : out.accepted = out'.accepted
  flattened : List.Forall₂ (EntryMoved Q) out.flattened out'.flattened
  unknown : List.Forall₂ Q out.unknown out'.unknown

/-- A call at one base path and at another. -/
theorem Schema.inStep_parse (kept : KeptBelow K Q) {s : Schema}
    (free : (Rule.nested s).Every Rule.NoContext) {input : Term} {pairs : Pairs}
    (hp : input.pairs? = some pairs) (meets : s.MeetsOnly K input)
    {options options' : Options} (corresponds : FieldsCorrespond K Q ⟨options.path⟩ ⟨options'.path⟩) :
    Run.InStep Eq (ParseError.Moved Q) (Output.Moved Q) (s.parse options input)
      (s.parse options' input) := by
  rw [parse_of_pairs hp, parse_of_pairs hp]
  apply (s.inStep_run (fun f hf => Rule.moves kept (free.field hf)) hp meets corresponds options options'
    true).bind
  intro l l' same
  exact .pure ⟨same.accepted, same.flattened, same.unknown⟩

end Conform
