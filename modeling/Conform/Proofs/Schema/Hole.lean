import Conform.Proofs.Level.EachMark
import Conform.Proofs.Level.Moved
import Conform.Proofs.Schema.Growth

/-!
# Keys without a rule

A key without a rule is noted, and that is all: with one more such key in its input, at the top or in a
nested level, a call comes to what it comes to without, with one more unknown path. A hole says where the
key is put in. Up to there the two calls are one, and what they note after it they note side by side, so
the new path stands behind those that have been noted when the run comes to the hole.

A level that arrives empty gets no defaults unless it is the top. So a key must not be put into an empty
level, for that would fill it.
-/

namespace Conform

/-- A place among the pairs of a level, or in the value of one of them. -/
inductive Hole where
  | here (before after : Pairs)
  | within (before : Pairs) (key : Key) (inside : Hole) (after : Pairs)

namespace Hole

/-- The keys that lead to the level of the hole. -/
def keys : Hole → List Key
  | here _ _ => []
  | within _ key inside _ => key :: inside.keys

/-- These are the pairs around the hole with some in it. The values on the way have pairs. -/
inductive Filled (extra : Pairs) : Hole → Pairs → Prop where
  | here (before after : Pairs) : Filled extra (.here before after) (before ++ (extra ++ after))
  | within {inside : Hole} {value : Term} {pairs : Pairs} (before : Pairs) (key : Key) (after : Pairs) :
    value.pairs? = some pairs → pairs ≠ [] → Filled extra inside pairs →
    Filled extra (.within before key inside after) (before ++ (key, value) :: after)

/-- When the run comes to the hole, the key has no rule there; what it goes through are nested levels. -/
def Unruled (key : Key) : Hole → Schema → Level → Journal → Prop
  | .here before _, s, l, j => ∀ l₁ j₁, l.gather (Rule.dispatchFields s.fields) before j = (.ok l₁, j₁) →
    s.ruleFor? j₁.session.symbols key = none
  | .within before k inside _, s, l, j => ∀ l₁ j₁,
    l.gather (Rule.dispatchFields s.fields) before j = (.ok l₁, j₁) →
    ∃ inner, s.ruleFor? j₁.session.symbols k = some (.nested inner) ∧
      inside.Unruled key inner (.start (l₁.path.child k) l₁.options) j₁

/-- The run comes to the hole, and has noted these paths by then. -/
inductive Reached : Hole → Schema → Level → Journal → List Path → Prop where
  | here {before after : Pairs} {s : Schema} {l l₁ : Level} {j j₁ : Journal} :
    l.gather (Rule.dispatchFields s.fields) before j = (.ok l₁, j₁) →
    Reached (.here before after) s l j l₁.unknown
  | within {before after : Pairs} {key : Key} {inside : Hole} {s inner : Schema} {l l₁ : Level}
    {j j₁ : Journal} {noted : List Path} :
    l.gather (Rule.dispatchFields s.fields) before j = (.ok l₁, j₁) →
    s.ruleFor? j₁.session.symbols key = some (.nested inner) →
    Reached inside inner (.start (l₁.path.child key) l₁.options) j₁ noted →
    Reached (.within before key inside after) s l j (l₁.unknown ++ noted)

end Hole

/-! ## One more path -/

/-- The second paths are the first ones with one more, behind those noted before it. -/
def OneMore (noted : List Path) (path : Path) (paths paths' : List Path) : Prop :=
  ∃ rest, paths = noted ++ rest ∧ paths' = noted ++ path :: rest

theorem goesOn_oneMore (noted : List Path) (path : Path) : GoesOn Eq (OneMore noted path) := by
  rintro _ _ v v' ⟨rest, rfl, rfl⟩ same
  cases paths_eq_of_moved same
  exact ⟨rest ++ v, List.append_assoc .., by rw [List.append_assoc, List.cons_append]⟩

/-- A path more stays one more behind what both lists begin with. -/
theorem OneMore.behind {noted paths paths' : List Path} {path : Path}
    (h : OneMore noted path paths paths') (before : List Path) :
    OneMore (before ++ noted) path (before ++ paths) (before ++ paths') := by
  obtain ⟨rest, rfl, rfl⟩ := h
  exact ⟨rest, (List.append_assoc ..).symm, (List.append_assoc ..).symm⟩

/-- Two states of one level that differ in their unknown paths at most. -/
abbrev Level.SameBut (U : List Path → List Path → Prop) : Level → Level → Prop :=
  Level.Moved (fun _ => True) Eq U

namespace Level

variable {U : List Path → List Path → Prop} {s : Schema}

/-- Such states stay so, whatever pairs come. -/
theorem sideBySide_sameBut (goesOn : GoesOn Eq U) (free : (Rule.nested s).Every Rule.NoContext) :
    SideBySide Eq Eq Eq (SameBut U) (Rule.dispatchFields s.fields) (Rule.dispatchFields s.fields)
      s.defaults s.mandatoryKeys := by
  have sides := sideBySide_moved goesOn (fun f hf => Rule.moves (keptBelow_eq _) (free.field hf))
    (fun d _ => .all s d) fun _ _ => trivial
  refine ⟨?_, sides.has, fun _ _ => rfl, fun l l' same key hk => ?_⟩
  · rintro l l' p _ same rfl
    have step := sides.step l l' p p same ⟨rfl, .all s p⟩
    exact step.mono (fun _ _ => ParseError.eq_of_moved) fun _ _ => id
  · exact ParseError.eq_of_moved (sides.missing l l' same key hk)

/-- Two runs of a schema without callbacks that look, at levels that differ in their unknown paths
only, stay in step over the pairs. -/
theorem inStep_gather (goesOn : GoesOn Eq U) (free : (Rule.nested s).Every Rule.NoContext)
    {l l' : Level} (same : l.SameBut U l') (pairs : Pairs) :
    Run.InStep Eq Eq (SameBut U) (l.gather (Rule.dispatchFields s.fields) pairs)
      (l'.gather (Rule.dispatchFields s.fields) pairs) :=
  .foldlM (sideBySide_sameBut goesOn free).step (List.forall₂_same.2 fun _ _ => rfl) same

theorem inStep_finish (goesOn : GoesOn Eq U) (free : (Rule.nested s).Every Rule.NoContext)
    {l l' : Level} (same : l.SameBut U l') (fill : Bool) :
    Run.InStep Eq Eq (SameBut U)
      (l.finish (Rule.dispatchFields s.fields) s.defaults s.mandatoryKeys fill)
      (l'.finish (Rule.dispatchFields s.fields) s.defaults s.mandatoryKeys fill) :=
  (sideBySide_sameBut goesOn free).finish fill same

end Level

/-! ## Up to the hole, and on from there -/

/-- Two states of a level after a hole in which only the second run has found the key. -/
def Hole.Passed (hole : Hole) (key : Key) (s : Schema) (start : Level) (j : Journal) (l l' : Level) :
    Prop :=
  ∃ noted, hole.Reached s start j noted ∧
    l.SameBut (OneMore noted ((start.path.descend hole.keys).child key)) l'

namespace Level

variable {s : Schema} {hole : Hole} {extra : Key × Term} {start l l' : Level} {j : Journal}

/-- What keeps two states the same but for unknown paths is in step behind the hole. -/
theorem inStep_passed {key : Key} {f : Level → Run Level} (h : hole.Passed key s start j l l')
    (next : ∀ U, GoesOn Eq U → l.SameBut U l' → Run.InStep Eq Eq (SameBut U) (f l) (f l')) :
    Run.InStep Eq Eq (hole.Passed key s start j) (f l) (f l') := by
  obtain ⟨noted, reached, same⟩ := h
  exact (next _ (goesOn_oneMore noted _) same).mono (fun _ _ => id)
    fun _ _ same => ⟨noted, reached, same⟩

/-- The pairs behind the hole, with the key before them and without it. -/
theorem endAlike_here (free : (Rule.nested s).Every Rule.NoContext) {before : Pairs} (after : Pairs)
    {k : Journal} (gathered : start.gather (Rule.dispatchFields s.fields) before j = (.ok l, k))
    (unruled : s.ruleFor? k.session.symbols extra.1 = none) :
    Run.EndAlike Eq Eq ((Hole.here before after).Passed extra.1 s start j)
      (l.gather (Rule.dispatchFields s.fields) after k)
      (l.gather (Rule.dispatchFields s.fields) (extra :: after) k) := by
  have noted : l.process (Rule.dispatchFields s.fields) extra k
      = (.ok { l with unknown := l.unknown ++ [l.path.child extra.1] }, (l.note extra.1 k).2) :=
    process_unruled unruled
  rw [gather_cons, Run.bind_of_ok noted]
  have path : l.path.child extra.1 = (start.path.descend []).child extra.1 :=
    congrArg (·.child extra.1) (stays_gather gathered).path
  have passed : (Hole.here before after).Passed extra.1 s start j l
      { l with unknown := l.unknown ++ [l.path.child extra.1] } := by
    refine ⟨l.unknown, .here gathered, fun _ _ => rfl, rfl, entriesMoved_refl _, [], ?_, ?_⟩
    · exact (List.append_nil _).symm
    · rw [path]
      rfl
  exact inStep_passed passed (fun U goesOn same => inStep_gather goesOn free same after) k _
    ((quiet_note l extra.1).session k).symm

/-- A nested level in which the hole is passed, as one step of the level around it. -/
theorem passed_take {inner : Schema} {before : Pairs} {key : Key} {inside : Hole} (after : Pairs)
    {k : Journal} (gathered : start.gather (Rule.dispatchFields s.fields) before j = (.ok l, k))
    (rule : s.ruleFor? k.session.symbols key = some (.nested inner)) {m m' : Level}
    (h : inside.Passed extra.1 inner (.start (l.path.child key) l.options) k m m') :
    (Hole.within before key inside after).Passed extra.1 s start j
      (l.take (.accept key (.map m.accepted) m.flattened m.unknown))
      (l.take (.accept key (.map m'.accepted) m'.flattened m'.unknown)) := by
  obtain ⟨noted, reached, same⟩ := h
  refine ⟨l.unknown ++ noted, .within gathered rule reached, fun _ _ => rfl, ?_, ?_, ?_⟩
  · simp only [take, same.accepted]
  · rw [entries_eq_of_moved same.flattened, same.accepted]
    exact entriesMoved_refl _
  · have more := same.unknown.behind l.unknown
    rw [← (stays_gather gathered).path]
    exact more

/-- The value around the hole, with the key in it and without, if its own pairs end alike. -/
theorem endAlike_within (free : (Rule.nested s).Every Rule.NoContext) {inner : Schema}
    {before : Pairs} {key : Key} {inside : Hole} (after : Pairs) {value value' : Term}
    {pairs pairs' : Pairs} (hv : value.pairs? = some pairs) (given : pairs ≠ [])
    (hv' : value'.pairs? = some pairs') (given' : pairs' ≠ []) {k : Journal}
    (gathered : start.gather (Rule.dispatchFields s.fields) before j = (.ok l, k))
    (rule : s.ruleFor? k.session.symbols key = some (.nested inner))
    (h : Run.EndAlike Eq Eq (inside.Passed extra.1 inner (.start (l.path.child key) l.options) k)
      (Level.gather (Rule.dispatchFields inner.fields) pairs (.start (l.path.child key) l.options) k)
      (Level.gather (Rule.dispatchFields inner.fields) pairs' (.start (l.path.child key) l.options) k)) :
    Run.EndAlike Eq Eq ((Hole.within before key inside after).Passed extra.1 s start j)
      (l.process (Rule.dispatchFields s.fields) (key, value) k)
      (l.process (Rule.dispatchFields s.fields) (key, value') k) := by
  obtain ⟨name, -, mem⟩ := Schema.mem_of_ruleFor? rule
  -- neither level arrives empty, so both get their defaults
  have filled : (!pairs.isEmpty) = true := by simpa using given
  have filled' : (!pairs'.isEmpty) = true := by simpa using given'
  have runs := h.bind fun _ _ passed => inStep_passed passed fun U goesOn same =>
    inStep_finish goesOn (free.field mem) same true
  have found : Run.EndAlike Eq Eq (fun found found' =>
      (Hole.within before key inside after).Passed extra.1 s start j (l.take found) (l.take found'))
      ((Rule.nested inner).dispatch key value l k) ((Rule.nested inner).dispatch key value' l k) := by
    rw [Rule.dispatch, inner.dispatch_eq, Dispatch.nested_of_pairs hv, Dispatch.nested_of_pairs hv',
      filled, filled']
    apply runs.bind
    intro m m' passed
    exact .pure (passed_take after gathered rule passed)
  rw [process_ruled rule, process_ruled rule]
  exact found.bind fun _ _ passed => .pure passed

/-- The pairs with the key in the hole and without it: whatever level the hole is in. -/
theorem endAlike_gather (free : (Rule.nested s).Every Rule.NoContext) {pairs pairs' : Pairs}
    (without : hole.Filled [] pairs) (filled : hole.Filled [extra] pairs')
    (unruled : hole.Unruled extra.1 s start j) :
    Run.EndAlike Eq Eq (hole.Passed extra.1 s start j)
      (start.gather (Rule.dispatchFields s.fields) pairs j)
      (start.gather (Rule.dispatchFields s.fields) pairs' j) := by
  -- on the hole: up to it the two runs are one, and behind it they have passed it
  induction hole generalizing s start j pairs pairs' with
  | here before after =>
    cases without
    cases filled
    rw [gather_append, gather_append]
    apply Run.EndAlike.of_common (fun _ => rfl) fun _ => rfl
    intro l k gathered
    exact endAlike_here free after gathered (unruled l k gathered)
  | within before key inside after ih =>
    cases without with
    | within _ _ _ hv given without =>
      cases filled with
      | within _ _ _ hv' given' filled =>
        rw [gather_append, gather_append]
        apply Run.EndAlike.of_common (fun _ => rfl) fun _ => rfl
        intro l k gathered
        obtain ⟨inner, rule, unruled⟩ := unruled l k gathered
        obtain ⟨name, -, mem⟩ := Schema.mem_of_ruleFor? rule
        have inner_gathered := ih (free.field mem) without filled unruled
        rw [gather_cons, gather_cons]
        apply (endAlike_within free after hv given hv' given' gathered rule inner_gathered).bind
        intro m m' passed
        exact inStep_passed passed fun U goesOn same => inStep_gather goesOn free same after

end Level

/-! ## Keys that never get a rule -/

/-- A rule that is no callback, or one that leaves all symbols there are. -/
def Rule.OnlyCreates : Rule → Prop
  | .callback c => ∀ key value l (session : Session),
    session.symbols.GrowsTo (c.apply key value l session).2.symbols
  | _ => True

/-- A mark that is no question, or one to a callback that leaves all symbols there are. -/
def Mark.OnlyCreates (m : Mark) : Prop :=
  ∀ q, m.question? = some q → q.session.symbols.GrowsTo q.after.symbols

theorem Mark.onlyCreates_noted (path : Path) : (noted path true).OnlyCreates :=
  nofun

/-- Questions to callbacks that only create symbols leave tables that have only grown. -/
theorem Rule.each_onlyCreates {r : Rule} (creates : r.Every OnlyCreates) (key : Key) (value : Term)
    (l : Level) : (r.trace key value l).Each Mark.OnlyCreates := by
  apply Rule.each_trace Mark.onlyCreates_noted
  · intro q within
    exact Mark.asks_asked ((creates.within within).here q.key q.value q.level q.session)
  · intro _ _ m creates
    exact Mark.asks_giveUp creates

theorem SymbolTable.GrowsTo.trans {t t' t'' : SymbolTable} (h : t.GrowsTo t') (h' : t'.GrowsTo t'') :
    t.GrowsTo t'' :=
  fun s hs => h' s (h s hs)

/-- Questions to callbacks that leave all symbols do so together. -/
theorem Question.growsTo_of_chain {first last : Session} {qs : List Question}
    (chain : Question.Chain first qs last)
    (each : ∀ q ∈ qs, q.session.symbols.GrowsTo q.after.symbols) :
    first.symbols.GrowsTo last.symbols := by
  induction chain with
  | nil => exact fun _ => id
  | @cons q qs last chain ih =>
    rw [List.forall_mem_cons] at each
    exact each.1.trans (ih each.2)

namespace Level

/-- Under such rules a run through pairs leaves all symbols. -/
theorem growsTo_gather {s : Schema} (creates : (Rule.nested s).Every Rule.OnlyCreates) {pairs : Pairs}
    {l l' : Level} {j j' : Journal}
    (h : l.gather (Rule.dispatchFields s.fields) pairs j = (.ok l', j')) :
    j.session.symbols.GrowsTo j'.session.symbols := by
  have told : Told l.options.warnUnknown l.Gains _ j (l.gather (Rule.dispatchFields s.fields) pairs j) :=
    tells_fold (tells_process fun f _ => Rule.tells f.2) pairs l j
  have each : (Trace.fold (process (Rule.dispatchFields s.fields))
      (processTrace (Rule.traceFields s.fields)) pairs l).Each Mark.OnlyCreates := by
    refine Trace.each_fold (I := fun _ => True) (fun _ _ _ _ _ _ _ => trivial)
      (each_processTrace Mark.onlyCreates_noted ?_) pairs trivial
    exact fun f hf key value l _ => Rule.each_onlyCreates (creates.field hf) key value l
  have grows := Question.growsTo_of_chain told.sessions (Mark.forall_question (each j))
  rwa [h] at grows

end Level

/-- The schema of the hole's level, if the levels on the way are nested ones. -/
def Hole.level? (t : SymbolTable) : Hole → Schema → Option Schema
  | .here _ _, s => some s
  | .within _ key inside _, s =>
    match s.ruleFor? t key with
    | some (.nested inner) => inside.level? t inner
    | _ => none

/-- If no symbols vanish and the keys of the schema exist, a key that has no rule has none when the run
comes to the hole. -/
theorem Hole.unruled_of_ruleFor? {t : SymbolTable} {hole : Hole} {s level : Schema} {key : Key}
    (known : (Rule.nested s).Every (Rule.Known t)) (creates : (Rule.nested s).Every Rule.OnlyCreates)
    (there : hole.level? t s = some level) (none : level.ruleFor? t key = none) (l : Level) {j : Journal}
    (grown : t.GrowsTo j.session.symbols) : hole.Unruled key s l j := by
  induction hole generalizing s l j with
  | here before after =>
    cases there
    intro l₁ j₁ gathered
    have grown := grown.trans (Level.growsTo_gather creates gathered)
    exact (valueFor?_of_growsTo grown known.here key).trans none
  | within before k inside after ih =>
    intro l₁ j₁ gathered
    have grown := grown.trans (Level.growsTo_gather creates gathered)
    have same : s.ruleFor? j₁.session.symbols k = s.ruleFor? t k :=
      valueFor?_of_growsTo grown known.here k
    unfold level? at there
    split at there
    · rename_i inner rule
      obtain ⟨name, -, mem⟩ := Schema.mem_of_ruleFor? rule
      exact ⟨inner, same.trans rule, ih (known.field mem) (creates.field mem) there _ grown⟩
    · cases there

namespace Schema

/-- **A key without a rule has no influence.** Take a schema without callbacks to which the level is
shown, and an input with one more pair in a hole, at the top or in a nested level that has other pairs,
whose key has no rule there when the run comes to it. The call fails with the same error, or it succeeds
with the same accepted and flattened pairs, and creates the same; to the unknown paths that of the key is
added, behind those that have been noted when the run comes to the hole. Where the keys of the schema
exist and callbacks leave the symbols there are, a key without a rule to begin with has none then
(`Hole.unruled_of_ruleFor?`). -/
theorem unruled_key_has_no_influence {s : Schema} (free : (Rule.nested s).Every Rule.NoContext)
    {input input' : Term} {pairs pairs' : Pairs} (hp : input.pairs? = some pairs)
    (hp' : input'.pairs? = some pairs') {hole : Hole} {extra : Key × Term}
    (without : hole.Filled [] pairs) (filled : hole.Filled [extra] pairs') (options : Options)
    (j : Journal) (unruled : hole.Unruled extra.1 s (.start ⟨options.path⟩ options) j) :
    Run.EndAlike Eq Eq (fun out out' => out.accepted = out'.accepted ∧ out.flattened = out'.flattened ∧
        ∃ noted rest, hole.Reached s (.start ⟨options.path⟩ options) j noted ∧
          out.unknown = noted ++ rest ∧
          out'.unknown = noted ++ (Path.descend ⟨options.path⟩ hole.keys).child extra.1 :: rest)
      (s.parse options input j) (s.parse options input' j) := by
  rw [parse_of_pairs hp, parse_of_pairs hp', Level.run_eq, Level.run_eq]
  have runs := (Level.endAlike_gather free without filled unruled).bind fun _ _ passed =>
    Level.inStep_passed passed fun U goesOn same => Level.inStep_finish goesOn free same true
  apply runs.bind
  rintro l l' ⟨noted, reached, same⟩
  obtain ⟨rest, unknown, unknown'⟩ := same.unknown
  exact .pure ⟨same.accepted, entries_eq_of_moved same.flattened, noted, rest, reached, unknown,
    unknown'⟩

/-- A proxy whose backend is given a size: the size is noted behind the colour, and nothing else is
different. -/
theorem unruled_key_has_no_influence_proxy :
    let j : Journal := ⟨⟨⟨[⟨"mode"⟩, ⟨"fast"⟩]⟩, 0⟩, []⟩
    let start : Level := .start ⟨""⟩ .default
    let colour : Key × Term := (.text "colour", .string "red")
    let mode : Key × Term := (.text "mode", .string "fast")
    let host : Key × Term := (.text "host", .string "a")
    let size : Key × Term := (.text "size", .integer 3)
    let given (inner : Pairs) : Pairs := [colour, (.text "backend", .map inner), mode]
    let hole : Hole := .within [colour] (.text "backend") (.here [host] []) [mode]
    (Rule.nested proxy).Every Rule.NoContext ∧ hole.Filled [] (given [host]) ∧
      hole.Filled [size] (given [host, size]) ∧ hole.Unruled size.1 proxy start j ∧
      ∃ out out', (proxy.parse .default (.map (given [host])) j).1 = .ok out ∧
        (proxy.parse .default (.map (given [host, size])) j).1 = .ok out' ∧
        out.accepted = out'.accepted ∧ out.flattened = out'.flattened ∧
        out.unknown = [⟨"colour"⟩] ∧ out'.unknown = [⟨"colour"⟩, ⟨"backend.size"⟩] := by
  intro j start colour mode host size given hole
  have free : (Rule.nested proxy).Every Rule.NoContext := by
    simp [proxy, backend, Rule.NoContext]
  have known : (Rule.nested proxy).Every (Rule.Known j.session.symbols) := by
    simp [proxy, backend, Rule.Known, KeysIn, j]
  have creates : (Rule.nested proxy).Every Rule.OnlyCreates := by
    simp [proxy, backend, Rule.OnlyCreates]
  have without : hole.Filled [] (given [host]) :=
    .within [colour] (.text "backend") [mode] rfl (by simp) (.here [host] [])
  have filled : hole.Filled [size] (given [host, size]) :=
    .within [colour] (.text "backend") [mode] rfl (by simp) (.here [host] [])
  have there : hole.level? j.session.symbols proxy = some backend := rfl
  have none : backend.ruleFor? j.session.symbols size.1 = none := rfl
  have unruled : hole.Unruled size.1 proxy start j :=
    Hole.unruled_of_ruleFor? known creates there none start fun _ => id
  have parsed : ∃ out, (proxy.parse .default (.map (given [host])) j).1 = .ok out ∧
      out.unknown = [⟨"colour"⟩] := ⟨_, rfl, rfl⟩
  have parsed' : ∃ out, (proxy.parse .default (.map (given [host, size])) j).1 = .ok out ∧
      out.unknown = [⟨"colour"⟩, ⟨"backend.size"⟩] := ⟨_, rfl, rfl⟩
  obtain ⟨out, ok, unknown⟩ := parsed
  obtain ⟨out', ok', unknown'⟩ := parsed'
  have pairs (ps : Pairs) : (Term.map ps).pairs? = some ps := rfl
  have same :=
    (unruled_key_has_no_influence free (pairs _) (pairs _) without filled .default j unruled).results
  rw [ok, ok'] at same
  cases same with
  | ok same =>
    exact ⟨free, without, filled, unruled, out, out', ok, ok', same.1, same.2.1, unknown, unknown'⟩

end Schema

end Conform
