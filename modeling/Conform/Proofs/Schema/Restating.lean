import Conform.Proofs.Run.Agree
import Conform.Proofs.Schema.Conformance
import Conform.Proofs.Schema.Mirrored

/-!
# Replacing the accepted pairs by themselves

A callback that replaces all that its level has accepted by just that leaves the accepted pairs as they
are, and with them all that a level goes by. But the flattened list is put together anew from these pairs
alone: what was accepted within their values is lost from it.

So a call is compared with the one in which such callbacks are silenced, their fields being ignored. The
two go side by side to the same end, with the flattened list of the first one behind that of the second
one. It has lost something if and only if a callback was shown a level with something within its values.
-/

namespace Conform

/-- The callback that replaces what has been accepted by just that. -/
def Callback.restating : Callback :=
  .contextual fun _ _ l => pure (some (.replaceAll l.accepted))

/-- The rule, with the field ignored instead of left to a callback. -/
def Rule.silenced : Rule → Rule
  | .callback _ => .ignore
  | r => r

/-- The schema with the fields ignored that are left to callbacks. -/
def Schema.silenced (s : Schema) : Schema :=
  { s with fields := s.fields.map fun f => (f.1, f.2.silenced) }

/-- The rule is the restating callback, or has no callback in it. -/
def Rule.RestatesOnly (r : Rule) : Prop :=
  r = .callback .restating ∨ r.Every NoCallback

/-- A rule that is no level of its own. -/
def Rule.Flat : Rule → Prop
  | .nested _ => False
  | _ => True

theorem Rule.silenced_of_noCallback {r : Rule} (h : r.NoCallback) : r.silenced = r := by
  cases r with
  | callback => exact h.elim
  | type | list | oneOf | nested | ignore => rfl

theorem Schema.ruleFor?_silenced (s : Schema) (t : SymbolTable) (key : Key) :
    s.silenced.ruleFor? t key = (s.ruleFor? t key).map Rule.silenced :=
  valueFor?_map Rule.silenced t s.fields key

namespace Rule

variable {r : Rule} {key : Key} {value : Term} {l : Level} {j : Journal}

/-- A callback that restates what is accepted answers with the level's own pairs. -/
theorem dispatch_restating :
    (callback .restating).dispatch key value l j = (.ok (.replaceAll l.accepted), j) := by
  rw [dispatch]
  rfl

theorem trace_restating : (callback .restating).trace key value l j
    = [.asked ⟨.restating, key, value, l, j.session⟩] := by
  rw [trace]
  rfl

/-- A rule without callbacks asks none. -/
theorem each_unasked (free : r.Every NoCallback) (key : Key) (value : Term) (l : Level) :
    (r.trace key value l).Each (Mark.Asks fun _ => False) :=
  each_trace Mark.asks_noted (fun q within => (free _ within : NoCallback (.callback q.callback)).elim)
    (fun _ _ _ => Mark.asks_giveUp) key value l

end Rule

/-! ## Levels with nothing within their values -/

namespace Level

/-- The flattened list has the accepted pairs and nothing else. -/
def Shallow (l : Level) : Prop :=
  l.flattened = l.path.entries l.accepted

theorem shallow_start (path : Path) (options : Options) : (start path options).Shallow :=
  rfl

/-- Every level that a callback is shown is shallow. -/
def ShownShallow (marks : List Mark) : Prop :=
  ∀ q ∈ marks.filterMap Mark.question?, q.level.Shallow

theorem shownShallow_append {marks marks' : List Mark} :
    ShownShallow (marks ++ marks') ↔ ShownShallow marks ∧ ShownShallow marks' := by
  rw [ShownShallow, List.filterMap_append]
  exact List.forall_mem_append

theorem shownShallow_of_unasked {marks : List Mark} (h : ∀ m ∈ marks, m.Asks fun _ => False) :
    ShownShallow marks :=
  fun q hq => (Mark.forall_question h q hq).elim

theorem shownShallow_asked (q : Question) : ShownShallow [.asked q] ↔ q.level.Shallow :=
  List.forall_mem_singleton

/-! ## One level behind another -/

/-- The first level is as the second one, but for the flattened list, from which entries within values
may be lost. `whole` says when none is. -/
structure Behind (whole : Prop) (l l' : Level) : Prop where
  place : l.SamePlace l'
  accepted : l.accepted = l'.accepted
  unknown : l.unknown = l'.unknown
  mirrors : l.Mirrors
  flattened : l.flattened.Sublist l'.flattened
  whole : l.flattened = l'.flattened ↔ whole

namespace Behind

variable {whole whole' : Prop} {l l' : Level}

theorem start (path : Path) (options : Options) :
    Behind True (.start path options) (.start path options) :=
  ⟨⟨rfl, rfl⟩, rfl, rfl, mirrors_start path options, .refl _, iff_of_true rfl trivial⟩

theorem congr (h : Behind whole l l') (same : whole ↔ whole') : Behind whole' l l' :=
  { h with whole := h.whole.trans same }

/-- Both levels have accepted the same names, so defaults are kept out alike. -/
theorem has (h : Behind whole l l') (key : Key) : l.has key = l'.has key := by
  rw [Level.has, Level.has, h.accepted]

theorem noted (h : Behind whole l l') (key : Key) :
    Behind whole { l with unknown := l.unknown ++ [l.path.child key] }
      { l' with unknown := l'.unknown ++ [l'.path.child key] } :=
  { h with unknown := by dsimp only; rw [h.unknown, h.place.1] }

/-- A field that both take, or both drop. -/
theorem taken (h : Behind whole l l') {key : Key} {found : Found} (keeps : found.Keeps key)
    (below : ∀ entry ∈ found.within, (l.path.child key).Above entry.1) :
    Behind whole (l.take found) (l'.take found) := by
  have mirrors := mirrors_take h.mirrors below
  cases keeps with
  | accept value flattened unknown =>
    refine ⟨h.place, ?_, ?_, mirrors, ?_, ?_⟩
    · exact congrArg (· ++ [(key, value)]) h.accepted
    · exact congrArg (· ++ unknown) h.unknown
    · simp only [take, h.place.1]
      exact h.flattened.append (.refl _)
    · simp only [take, h.place.1, List.append_left_inj]
      exact h.whole
  | drop => exact h

/-- What the first level puts together anew, and the second one leaves as it is. -/
theorem restated (h : Behind whole l l') :
    Behind (whole ∧ l.Shallow) (l.take (.replaceAll l.accepted)) l' := by
  have anew : (l.take (.replaceAll l.accepted)).flattened = l.path.entries l.accepted := rfl
  have ordered : (l.path.entries l.accepted).Sublist l.flattened := h.mirrors.ordered
  refine ⟨h.place, h.accepted, h.unknown, .refl _ _, ?_, ?_⟩
  · exact ordered.trans h.flattened
  · rw [anew]
    constructor
    · -- the list in between is as long as the two around it
      intro same
      have shallow : l.flattened = l.path.entries l.accepted := by
        refine (ordered.eq_of_length_le ?_).symm
        rw [same]
        exact h.flattened.length_le
      exact ⟨h.whole.1 (shallow.trans same), shallow⟩
    · rintro ⟨nothing, shallow⟩
      exact shallow.symm.trans (h.whole.2 nothing)

end Behind

/-! ## Runs side by side -/

/-- Two runs come to the same end, the level of the first one behind that of the second one: as far as it
was before, and by what was lost where a callback was asked. What one step has lost stays lost, so `whole`
goes along and adds up over a run. -/
structure EndBehind (whole : Prop) (marks : List Mark) (x y : Except ParseError Level × Journal) :
    Prop where
  journals : x.2 = y.2
  results : Alike Eq (Behind (whole ∧ ShownShallow marks)) x.1 y.1

/-- The two runs go side by side, from wherever one level is behind the other. -/
def GoBehind (trace : Level → Trace) (step step' : Level → Run Level) : Prop :=
  ∀ whole l l' j, Behind whole l l' → EndBehind whole (trace l j) (step l j) (step' l' j)

namespace EndBehind

variable {whole : Prop} {marks : List Mark} {l l' : Level} {j : Journal}

/-- An end at which no callback has been asked. -/
theorem unasked (h : Behind whole l l') (none : ShownShallow marks) :
    EndBehind whole marks (.ok l, j) (.ok l', j) :=
  ⟨rfl, .ok (h.congr (iff_self_and.2 fun _ => none))⟩

/-- A key without a rule is noted on both sides. -/
theorem note (h : Behind whole l l') (key : Key) :
    EndBehind whole [.noted (l.path.child key) true] (l.note key j) (l'.note key j) := by
  have unasked : ShownShallow [.noted (l.path.child key) true] :=
    shownShallow_of_unasked (List.forall_mem_singleton.2 (Mark.asks_noted _))
  refine ⟨?_, .ok ((h.noted key).congr (iff_self_and.2 fun _ => unasked))⟩
  simp only [Level.note, h.place.1, h.place.2]

/-- What follows changes neither level and asks nothing. -/
theorem demand {trace : Trace} {x y : Run Level} (h : EndBehind whole (trace j) (x j) (y j))
    (keys : List Key) : EndBehind whole (trace j) ((x >>= fun l => l.demand keys) j)
      ((y >>= fun l => l.demand keys) j) := by
  obtain ⟨journals, results⟩ := h
  rw [Run.bind_apply, Run.bind_apply]
  rcases hx : x j with ⟨e | l, k⟩ <;> rcases hy : y j with ⟨e' | l', k'⟩ <;>
    rw [hx, hy] at journals results <;> cases journals <;> cases results
  · exact ⟨rfl, .error ‹_›⟩
  · rename_i behind
    have same : (fun key => !l.has key) = fun key => !l'.has key :=
      funext fun key => congrArg not (behind.has key)
    dsimp only
    unfold Level.demand
    rw [same, behind.place.1]
    cases keys.find? fun key => !l'.has key with
    | none => exact ⟨rfl, .ok behind⟩
    | some key => exact ⟨rfl, .error rfl⟩

end EndBehind

namespace GoBehind

variable {first next : Level → Trace} {x x' f f' : Level → Run Level}

/-- Parts that go on behind one another do in sequence. The trace decides whether anything was
restated on the way. -/
theorem andThen (h : GoBehind first x x') (h' : GoBehind next f f') :
    GoBehind (fun l => (first l).andThen (x l) next) (fun l => x l >>= f) fun l => x' l >>= f' := by
  intro whole l l' j behind
  obtain ⟨journals, results⟩ := h whole l l' j behind
  dsimp only
  rw [Trace.andThen, Run.bind_apply, Run.bind_apply]
  rcases hx : x l j with ⟨e | l₁, k⟩ <;> rcases hx' : x' l' j with ⟨e' | l₁', k'⟩ <;>
    rw [hx, hx'] at journals results <;> cases journals <;> cases results
  · exact ⟨rfl, .error ‹_›⟩
  · rename_i behind₁
    obtain ⟨journals, results⟩ := h' _ l₁ l₁' k behind₁
    refine ⟨journals, results.mono (fun _ _ same => same) fun _ _ behind₂ => behind₂.congr ?_⟩
    rw [shownShallow_append, and_assoc]

theorem skip : GoBehind (fun _ => .none) pure pure :=
  fun _ _ _ _ behind => .unasked behind (shownShallow_of_unasked (List.forall_mem_nil _))

theorem fold {α : Type} {trace : Level → α → Trace} {step step' : Level → α → Run Level}
    (h : ∀ a, GoBehind (fun l => trace l a) (fun l => step l a) fun l => step' l a) (as : List α) :
    GoBehind (Trace.fold step trace as) (fun l => as.foldlM step l) fun l => as.foldlM step' l := by
  induction as with
  | nil => exact skip
  | cons a as ih =>
    simp only [List.foldlM_cons]
    exact (h a).andThen ih

end GoBehind

variable {s : Schema}

/-- A pair: it has no rule on either side, it is restated on the first one and ignored on the second one,
or the same rule finds the same. -/
theorem goBehind_process (only : ∀ f ∈ s.fields, f.2.RestatesOnly) (p : Key × Term) :
    GoBehind (fun l => l.processTrace (Rule.traceFields s.fields) p)
      (fun l => l.process (Rule.dispatchFields s.fields) p)
      fun l => l.process (Rule.dispatchFields s.silenced.fields) p := by
  intro whole l l' j behind
  have silenced := s.ruleFor?_silenced j.session.symbols p.1
  dsimp only
  cases hr : s.ruleFor? j.session.symbols p.1 with
  | none =>
    rw [hr] at silenced
    rw [process_unruled hr, process_unruled silenced, processTrace_unruled hr]
    exact .note behind p.1
  | some r =>
    obtain ⟨k, -, mem⟩ := Schema.mem_of_ruleFor? hr
    rw [hr] at silenced
    rw [process_ruled hr, process_ruled silenced, processTrace_ruled hr]
    rcases only _ mem with rfl | free
    · rw [Rule.trace_restating, Run.bind_of_ok Rule.dispatch_restating, Rule.silenced, Rule.dispatch]
      refine ⟨rfl, .ok (behind.restated.congr ?_)⟩
      rw [shownShallow_asked]
    · have unasked : ShownShallow (r.trace p.1 p.2 l j) :=
        shownShallow_of_unasked (Rule.each_unasked free p.1 p.2 l j)
      have steady := Rule.steady_dispatch (free.mono fun _ => Rule.NoCallback.plain)
      rw [Rule.silenced_of_noCallback free.here, ← steady.place p.1 p.2 l l' behind.place,
        Run.bind_pure_apply, Run.bind_pure_apply]
      cases hf : (r.dispatch p.1 p.2 l j).1 with
      | error e => exact ⟨rfl, .error rfl⟩
      | ok found =>
        exact .unasked (behind.taken (steady.keeps _ _ _ _ _ hf) (r.findsBelow _ _ _ _ _ hf)) unasked

theorem goBehind_processDefault (only : ∀ f ∈ s.fields, f.2.RestatesOnly) (d : Key × Term) :
    GoBehind (fun l => l.defaultTrace (Rule.traceFields s.fields) d)
      (fun l => l.processDefault (Rule.dispatchFields s.fields) d)
      fun l => l.processDefault (Rule.dispatchFields s.silenced.fields) d := by
  intro whole l l' j behind
  have same := behind.has d.1
  dsimp only
  unfold defaultTrace
  by_cases has : l.has d.1 = true
  · rw [if_pos has, processDefault_of_has has, processDefault_of_has (same ▸ has)]
    exact GoBehind.skip whole l l' j behind
  · rw [if_neg has, processDefault_of_not_has has, processDefault_of_not_has (same ▸ has)]
    exact goBehind_process only d whole l l' j behind

/-- The run, and that of the silenced schema, come to the same end, but for what restating took out
of `flattened`. -/
theorem endBehind_run (only : ∀ f ∈ s.fields, f.2.RestatesOnly) (defaults : Pairs)
    (mandatory : List Key) (fill : Bool) (pairs : Pairs) (path : Path) (options : Options)
    (j : Journal) : EndBehind True
      (trace (Rule.dispatchFields s.fields) (Rule.traceFields s.fields) defaults fill pairs
        (.start path options) j)
      (run (Rule.dispatchFields s.fields) defaults mandatory fill pairs (.start path options) j)
      (run (Rule.dispatchFields s.silenced.fields) defaults mandatory fill pairs
        (.start path options) j) := by
  have both := (GoBehind.fold (goBehind_process only) pairs).andThen
    (GoBehind.fold (goBehind_processDefault only) (if fill then defaults else []))
  have ends := (both _ _ _ j (.start path options)).demand mandatory
  simp only [bind_assoc] at ends
  exact ends

/-! ## Flat levels -/

/-- A flat rule finds nothing within values. -/
theorem within_of_flat {r : Rule} (flat : r.Every Rule.Flat) {key : Key} {value : Term} {l : Level}
    {j : Journal} {found : Found} (h : (r.dispatch key value l j).1 = .ok found) : found.within = [] := by
  have nothing : r.HasWithin fun _ _ => False :=
    Rule.hasWithin_of_nested fun s within _ => (flat _ within : Rule.Flat (.nested s)).elim
  exact List.eq_nil_iff_forall_not_mem.2 (nothing key value l j found h)

/-- Fields whose rules are flat keep a level shallow, as they find nothing within. -/
theorem keeps_shallow (flat : ∀ f ∈ s.fields, f.2.Every Rule.Flat) : Keeps Shallow s.fields where
  noted _ _ shallow := shallow
  taken f hf key value l j found ok shallow := by
    have nothing := within_of_flat (flat f hf) ok
    cases found with
    | accept key' value' flattened unknown =>
      cases nothing
      change l.flattened ++ [_] = l.path.entries (l.accepted ++ [_])
      rw [shallow, Path.entries, Path.entries, List.map_append]
      rfl
    | drop => exact shallow
    | replaceAll pairs => rfl

end Level

namespace Schema

variable {s : Schema}

/-- At a flat level every callback is shown a shallow one. -/
theorem shownShallow_of_flat (only : ∀ f ∈ s.fields, f.2.RestatesOnly)
    (flat : ∀ f ∈ s.fields, f.2.Every Rule.Flat) (options : Options) (input : Term) (j : Journal) :
    ∀ q ∈ s.questions options input j, q.level.Shallow := by
  have fields (f : Key × Rule) (hf : f ∈ s.fields) (key : Key) (value : Term) (l : Level)
      (shallow : l.Shallow) :
      (f.2.trace key value l).Each (Mark.Asks fun q => q.level.Shallow) := by
    intro j m hm
    rcases only f hf with restating | free
    · rw [restating, Rule.trace_restating] at hm
      cases List.mem_singleton.1 hm
      exact Mark.asks_asked shallow
    · intro q asked
      exact (Rule.each_unasked free key value l j m hm q asked).elim
  apply Mark.forall_question
  unfold trace
  cases input.pairs? with
  | none => exact List.forall_mem_nil _
  | some pairs =>
    exact Level.each_trace (Level.keeps_shallow flat) Mark.asks_noted fields _ _ _
      (Level.shallow_start _ _) j

/-- The first output is as the second one, but for the flattened list, from which entries within values
may be lost. `whole` says when none is. -/
structure OutputBehind (whole : Prop) (out out' : Output) : Prop where
  accepted : out.accepted = out'.accepted
  unknown : out.unknown = out'.unknown
  flattened : out.flattened.Sublist out'.flattened
  whole : out.flattened = out'.flattened ↔ whole

theorem OutputBehind.eq {whole : Prop} {out out' : Output} (h : OutputBehind whole out out')
    (nothing : whole) : out = out' := by
  obtain ⟨accepted, flattened, unknown⟩ := out
  rw [Output.mk.injEq]
  exact ⟨h.accepted, h.whole.2 nothing, h.unknown⟩

/-- **Replacing the accepted pairs by themselves keeps them, and loses what is within them.** A schema
has no callbacks but some fields that replace all that the level has accepted by just that. Its calls end
as if these fields were ignored: with the same error, or with the same accepted pairs and the same unknown
paths, and they create and log the same. Nothing is flattened that is not flattened then, and in the same
order. The flattened lists are the same if and only if each time the callback was asked nothing was
flattened but the level's own pairs; and so they are, for every input, if no rule of the level is a level
of its own. -/
theorem restating_loses_within (only : ∀ f ∈ s.fields, f.2.RestatesOnly) (options : Options)
    (input : Term) (j : Journal) :
    let call := s.parse options input j
    let silent := s.silenced.parse options input j
    call.2 = silent.2 ∧
      Alike Eq (OutputBehind (∀ q ∈ s.questions options input j, q.level.Shallow)) call.1 silent.1 ∧
      ((∀ f ∈ s.fields, f.2.Every Rule.Flat) → call = silent) := by
  intro call silent
  have ends : call.2 = silent.2 ∧
      Alike Eq (OutputBehind (∀ q ∈ s.questions options input j, q.level.Shallow)) call.1 silent.1 := by
    simp only [call, silent, questions, trace]
    cases hp : input.pairs? with
    | none =>
      rw [parse_of_none hp, parse_of_none hp]
      exact ⟨rfl, .error rfl⟩
    | some pairs =>
      rw [parse_of_pairs hp, parse_of_pairs hp, Run.bind_pure_apply, Run.bind_pure_apply]
      obtain ⟨journals, results⟩ := Level.endBehind_run only s.defaults s.mandatoryKeys true pairs
        ⟨options.path⟩ options j
      exact ⟨journals, results.map fun _ _ behind => ⟨behind.accepted, behind.unknown, behind.flattened,
        behind.whole.trans (iff_of_eq (true_and _))⟩⟩
  refine ⟨ends.1, ends.2, fun flat => Prod.ext ?_ ends.1⟩
  have shown := shownShallow_of_flat only flat options input j
  exact (ends.2.mono (fun _ _ same => same) fun _ _ behind => behind.eq shown).eq

/-- A service: a name, a field that restates the level, and a backend. -/
def restated : Schema :=
  ⟨[(.text "name", .type .string), (.text "again", .callback .restating), (.text "main", .nested backend)],
    [], none⟩

theorem restatesOnly_restated : ∀ f ∈ restated.fields, f.2.RestatesOnly := by
  have main : (Rule.nested backend).Every Rule.NoCallback := by
    simp [backend, Rule.NoCallback]
  simp [restated, Rule.RestatesOnly, Rule.NoCallback, main]

/-- The service is restated when it has a name and no backend yet, so nothing is lost. -/
theorem restating_loses_within_service :
    let main : Term := .map [(.text "host", .string "a"), (.text "port", .integer 80)]
    let given : Term := .map [(.text "name", .string "n"), (.text "again", .boolean true),
      (.text "main", main)]
    (∀ f ∈ restated.fields, f.2.RestatesOnly) ∧
      (∀ q ∈ restated.questions .default given default, q.level.Shallow) ∧
      ∃ out out', (restated.parse .default given default).1 = .ok out ∧
        (restated.silenced.parse .default given default).1 = .ok out' ∧
        out.flattened = out'.flattened ∧
        out.flattened.map Prod.fst = [⟨"name"⟩, ⟨"main"⟩, ⟨"main.host"⟩, ⟨"main.port"⟩] := by
  intro main given
  have shown : ∀ q ∈ restated.questions .default given default, q.level.Shallow :=
    List.forall_mem_singleton.2 rfl
  have parsed : ∃ out, (restated.parse .default given default).1 = .ok out ∧
      out.flattened.map Prod.fst = [⟨"name"⟩, ⟨"main"⟩, ⟨"main.host"⟩, ⟨"main.port"⟩] := ⟨_, rfl, rfl⟩
  have silent : ∃ out', (restated.silenced.parse .default given default).1 = .ok out' := ⟨_, rfl⟩
  obtain ⟨out, ok, paths⟩ := parsed
  obtain ⟨out', ok'⟩ := silent
  obtain ⟨-, ends, -⟩ := restating_loses_within restatesOnly_restated .default given default
  rw [ok, ok'] at ends
  cases ends with
  | ok behind => exact ⟨restatesOnly_restated, shown, out, out', ok, ok', behind.whole.2 shown, paths⟩

/-- When the backend comes first, its host and its port are lost from the flattened list, though the
backend is still accepted with both. -/
theorem restating_loses_host :
    let main : Term := .map [(.text "host", .string "a"), (.text "port", .integer 80)]
    let given : Term := .map [(.text "main", main), (.text "again", .boolean true)]
    (∀ f ∈ restated.fields, f.2.RestatesOnly) ∧
      ∃ out out', (restated.parse .default given default).1 = .ok out ∧
        (restated.silenced.parse .default given default).1 = .ok out' ∧
        out.accepted = [(.text "main", main)] ∧ out'.accepted = [(.text "main", main)] ∧
        out.flattened = [(⟨"main"⟩, main)] ∧
        out'.flattened = [(⟨"main"⟩, main), (⟨"main.host"⟩, .string "a"),
          (⟨"main.port"⟩, .integer 80)] ∧
        out.flattened ≠ out'.flattened := by
  intro main given
  exact ⟨restatesOnly_restated, _, _, rfl, rfl, rfl, rfl, rfl, rfl, fun same => nomatch same⟩

end Schema

end Conform
