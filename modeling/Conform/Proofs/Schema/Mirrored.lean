import Conform.Proofs.Level.Semantics
import Conform.Proofs.Schema.Faults

/-!
# Accepted pairs in the flattened list

A level keeps two lists that grow together: the accepted pairs, and the flattened ones, in which what was
accepted within a value follows the value. Whatever the rules find, the accepted pairs stand in the
flattened list under their paths, in their order, and nothing in it lies outside the level: a field that
is taken goes into both, what was accepted within it lies below the field, and a bulk replacement starts
both anew. So it is at every moment at which a callback sees the level, and at the end.
-/

namespace Conform

namespace Path

/-- The second path is the first one with at least one key more. -/
def Above (p q : Path) : Prop :=
  ∃ key keys, q = p.descend (key :: keys)

theorem above_child (p : Path) (key : Key) : p.Above (p.child key) :=
  ⟨key, [], rfl⟩

theorem Above.of_child {p q : Path} {key : Key} (h : (p.child key).Above q) : p.Above q := by
  obtain ⟨k, ks, rfl⟩ := h
  exact ⟨key, k :: ks, rfl⟩

/-- Pairs under the paths that they have at a level. -/
def entries (p : Path) (pairs : Pairs) : List (Path × Term) :=
  pairs.map fun q => (p.child q.1, q.2)

end Path

/-- The flattened list mirrors the accepted pairs of the level at this path: they stand in it in their
order, and all that stands in it lies below the path. -/
structure Mirrors (path : Path) (accepted : Pairs) (flattened : List (Path × Term)) : Prop where
  ordered : (path.entries accepted).Sublist flattened
  below : ∀ entry ∈ flattened, path.Above entry.1

namespace Mirrors

variable {path : Path} {accepted : Pairs} {flattened : List (Path × Term)}

theorem nil (path : Path) : Mirrors path [] [] :=
  ⟨.slnil, List.forall_mem_nil _⟩

/-- One more pair, with what was accepted within its value after it. -/
theorem taken (h : Mirrors path accepted flattened) (key : Key) (value : Term)
    {within : List (Path × Term)} (below : ∀ entry ∈ within, path.Above entry.1) :
    Mirrors path (accepted ++ [(key, value)]) (flattened ++ (path.child key, value) :: within) where
  ordered := by
    rw [Path.entries, List.map_append]
    exact h.ordered.append ((List.nil_sublist within).cons_cons _)
  below := List.forall_mem_append.2
    ⟨h.below, List.forall_mem_cons.2 ⟨path.above_child key, below⟩⟩

/-- Nothing but the pairs themselves. -/
theorem refl (path : Path) (pairs : Pairs) : Mirrors path pairs (path.entries pairs) where
  ordered := .refl _
  below entry he := by
    obtain ⟨p, -, rfl⟩ := List.mem_map.1 he
    exact path.above_child p.1

end Mirrors

/-- What was accepted within a value that was found. -/
def Found.within : Found → List (Path × Term)
  | .accept _ _ flattened _ => flattened
  | .drop | .replaceAll _ => []

/-- All that the rule finds within a value has this property, which may depend on the field's path. -/
def Rule.HasWithin (P : Path → Path × Term → Prop) (r : Rule) : Prop :=
  ∀ key value (l : Level) j found, (r.dispatch key value l j).1 = .ok found →
    ∀ entry ∈ found.within, P (l.path.child key) entry

/-- What the rule finds within a value lies below the field. -/
def Rule.FindsBelow : Rule → Prop :=
  HasWithin fun path entry => path.Above entry.1

/-! ## Levels -/

namespace Level

/-- The flattened list of the level mirrors its accepted pairs. -/
def Mirrors (l : Level) : Prop :=
  Conform.Mirrors l.path l.accepted l.flattened

theorem mirrors_start (path : Path) (options : Options) : (start path options).Mirrors :=
  .nil path

/-- What is taken is mirrored, and what was found within lies below the key. -/
theorem mirrors_take {l : Level} {key : Key} {found : Found} (h : l.Mirrors)
    (below : ∀ entry ∈ found.within, (l.path.child key).Above entry.1) : (l.take found).Mirrors := by
  cases found with
  | accept key' value flattened unknown =>
    exact Conform.Mirrors.taken h key' value fun entry he => (below entry he).of_child
  | drop => exact h
  | replaceAll pairs => exact .refl l.path pairs

/-- Every dispatch that finds entries below its key keeps a level mirrored. -/
theorem keeps_mirrors {fields : List (Key × Rule)} (h : ∀ f ∈ fields, f.2.FindsBelow) :
    Keeps Mirrors fields where
  noted _ _ mirrors := mirrors
  taken f hf key value l j found ok mirrors := mirrors_take mirrors (h f hf key value l j found ok)

/-- A level mirrors its accepted pairs when its run has come to the end. -/
theorem mirrors_run {s : Schema} (h : ∀ f ∈ s.fields, f.2.FindsBelow) {defaults : Pairs}
    {mandatory : List Key} {fill : Bool} {pairs : Pairs} {path : Path} {options : Options}
    {j j' : Journal} {l : Level}
    (ran : run (Rule.dispatchFields s.fields) defaults mandatory fill pairs (.start path options) j
      = (.ok l, j')) : Conform.Mirrors path l.accepted l.flattened := by
  have mirrors : l.Mirrors := (keeps_mirrors h).run (mirrors_start path options) ran
  have here : l.path = path := (stays_run ran).path
  rwa [Mirrors, here] at mirrors

end Level

/-! ## Each kind of rule -/

namespace Dispatch

theorem within_ofVerdict {path : Path} {key : Key} {value : Term} {v : Verdict} {found : Found}
    (h : ofVerdict path key value v = .ok found) : found.within = [] := by
  cases v with
  | accept | replace | rename | replaceAll =>
    cases h
    rfl
  | reject | error => cases h

/-- What is found within the items of a list is what is found within any of them. -/
theorem within_items {P : Path × Term → Prop} {path : Path} {dispatch : Term → Run Found}
    (h : ∀ t j found, (dispatch t j).1 = .ok found → ∀ entry ∈ found.within, P entry) {ts : List Term}
    {j j' : Journal} {values : List Term} {flattened : List (Path × Term)} {unknown : List Path}
    (taken : items path dispatch ts j = (.ok (values, flattened, unknown), j')) :
    ∀ entry ∈ flattened, P entry := by
  induction ts generalizing j values flattened unknown with
  | nil =>
    cases taken
    exact List.forall_mem_nil _
  | cons t ts ih =>
    obtain ⟨found, j₁, first, rest⟩ := Run.bind_eq_ok.1 taken
    cases found with
    | accept key value here unknown' =>
      obtain ⟨⟨values', later, _⟩, j₂, others, rest⟩ := Run.bind_eq_ok.1 rest
      cases rest
      exact List.forall_mem_append.2 ⟨h t j _ (congrArg Prod.fst first), ih others⟩
    | drop => exact ih rest
    | replaceAll => cases rest

end Dispatch

/-- What a rule finds within values comes from the levels in it. -/
theorem Rule.hasWithin_of_nested {P : Path → Path × Term → Prop} {r : Rule}
    (level : ∀ s : Schema, Within (.nested s) r → (∀ f ∈ s.fields, f.2.HasWithin P) →
      (nested s).HasWithin P) : r.HasWithin P := by
  induction r using Rule.induct with
  | type tag =>
    intro key value l j found h
    rw [dispatch] at h
    obtain ⟨t, -, rfl⟩ := Dispatch.exists_of_type h
    exact List.forall_mem_nil _
  | list d inner ih =>
    intro key value l j found h
    rw [dispatch] at h
    obtain ⟨values, flattened, unknown, j', items, rfl⟩ := Dispatch.exists_of_list h
    exact Dispatch.within_items (fun t => ih (fun s hs => level s (.list hs)) key t l) items
  | oneOf rules ih =>
    intro key value l j found h
    rw [dispatch, dispatchAll_eq_map] at h
    obtain ⟨d, hd, j', taken⟩ := Dispatch.exists_of_firstOf h
    obtain ⟨r, hr, rfl⟩ := List.mem_map.1 hd
    exact ih r hr (fun s hs => level s (.oneOf hr hs)) key value l j' found taken
  | nested s ih =>
    exact level s (.refl _) fun f hf => ih f hf fun s' hs => level s' (.nested hf hs)
  | callback c =>
    intro key value l j found h
    rw [dispatch] at h
    obtain ⟨v, -, answer⟩ := Dispatch.exists_of_callback h
    rw [Dispatch.within_ofVerdict answer]
    exact List.forall_mem_nil _
  | ignore =>
    intro key value l j found h
    rw [dispatch] at h
    cases h
    exact List.forall_mem_nil _

/-- Every rule finds its entries below its key, by induction on the rule. -/
theorem Rule.findsBelow (r : Rule) : r.FindsBelow := by
  apply hasWithin_of_nested
  intro s _ fields key value l j found h
  rw [dispatch, s.dispatch_eq] at h
  obtain ⟨pairs, inner, j', -, ran, rfl⟩ := Dispatch.exists_run_of_nested h
  exact (Level.mirrors_run fields ran).below

namespace Schema

variable {s : Schema} {options : Options} {input : Term} {j : Journal}

/-- What the levels keep holds of every level that a callback is shown. -/
theorem level_of_question {I : Level → Prop} (start : ∀ path options, I (.start path options))
    (keeps : ∀ fields, Level.Keeps I fields) : ∀ q ∈ s.questions options input j, I q.level := by
  have each := each_trace_of_keeps (s := s) (P := Mark.Asks fun q => I q.level) start keeps
    Mark.asks_noted (fun q _ shown => Mark.asks_asked shown) (fun _ _ _ => Mark.asks_giveUp) options input
  exact Mark.forall_question (each j)

/-- **Accepted pairs stand in the flattened list.** Whatever the schema, the input and the options: each
level that a callback is shown has its accepted pairs in its flattened list, under their paths and in
their order, and each flattened path is that of the level with at least one key more. The same holds of
the output of a call, and of what a nested level is taken with. -/
theorem accepted_mirrored (s : Schema) (options : Options) (input : Term) (j : Journal) :
    (∀ q ∈ s.questions options input j, Mirrors q.level.path q.level.accepted q.level.flattened) ∧
      (∀ out, (s.parse options input j).1 = .ok out →
        Mirrors ⟨options.path⟩ out.accepted out.flattened) ∧
      ∀ key value (l : Level) j found, (s.dispatch key value l j).1 = .ok found →
        ∃ accepted flattened unknown, found = .accept key (.map accepted) flattened unknown ∧
          Mirrors (l.path.child key) accepted flattened := by
  refine ⟨?_, ?_, ?_⟩
  · exact level_of_question Level.mirrors_start
      fun fields => Level.keeps_mirrors fun f _ => f.2.findsBelow
  · intro out h
    cases hp : input.pairs? with
    | none =>
      rw [parse_of_none hp] at h
      cases h
    | some pairs =>
      rw [parse_of_pairs hp] at h
      obtain ⟨l, j₁, ran, h⟩ := Run.bind_eq_ok.1 (Prod.ext h rfl)
      cases h
      exact Level.mirrors_run (fun f _ => f.2.findsBelow) ran
  · intro key value l j found h
    rw [s.dispatch_eq] at h
    obtain ⟨pairs, inner, j', -, ran, rfl⟩ := Dispatch.exists_run_of_nested h
    exact ⟨inner.accepted, inner.flattened, inner.unknown, rfl,
      Level.mirrors_run (fun f _ => f.2.findsBelow) ran⟩

/-- A service whose level is turned round when its main backend has been taken. What was accepted within
the backend is no longer flattened then; the remark that follows, under a new key, goes into both. -/
theorem accepted_mirrored_turned :
    let turn : Callback := .contextual fun _ _ l => pure (some (.replaceAll l.accepted.reverse))
    let remark : Callback := .keyed fun _ value => pure (some (.rename (.text "remark") value))
    let s : Schema := ⟨[(.text "name", .type .string), (.text "main", .nested backend),
      (.text "turn", .callback turn), (.text "note", .callback remark)], [], none⟩
    let main : Term := .map [(.text "host", .string "a"), (.text "port", .integer 80)]
    let given : Term := .map [(.text "name", .string "n"), (.text "main", main),
      (.text "turn", .boolean true), (.text "note", .string "x")]
    ∃ out, (s.parse .default given default).1 = .ok out ∧
      Mirrors ⟨""⟩ out.accepted out.flattened ∧
      out.flattened = [(⟨"main"⟩, main), (⟨"name"⟩, .string "n"), (⟨"remark"⟩, .string "x")] := by
  intro turn remark s main given
  have parsed : ∃ out, (s.parse .default given default).1 = .ok out ∧
      out.flattened = [(⟨"main"⟩, main), (⟨"name"⟩, .string "n"), (⟨"remark"⟩, .string "x")] :=
    ⟨_, rfl, rfl⟩
  obtain ⟨out, ok, flattened⟩ := parsed
  exact ⟨out, ok, (accepted_mirrored s .default given default).2.1 out ok, flattened⟩

end Schema

end Conform
