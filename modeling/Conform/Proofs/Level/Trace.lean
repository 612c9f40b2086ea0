import Conform.Proofs.Level.Equations
import Conform.Proofs.Rule.Depth

/-!
# The trace of a run

What a run meets on its way and does not give back: the callbacks that it asks, with all they are shown,
and the keys that it notes as unknown, in the order in which both happen. Between two marks of a trace
nothing is created and nothing is logged.

The marks of an alternative that is given up stay in the trace, since the run did go there. But what the
alternative noted is lost with it, so its notes are marked as given up.

`Told` is the invariant that ties a run to its trace: the events, what has been created, the result and
the unknown paths are all told by the marks. It holds of single steps, sequences keep it, and so it holds
of each kind of rule and, by induction over rules, of a whole call.

The `tells_*` lemmas go through the kinds of rules, `tells_process` and `tells_run` through a level.
-/

namespace Conform

/-! ## Marks -/

/-- A callback that is asked about a field, with all that it is shown. -/
structure Question where
  callback : Callback
  key : Key
  value : Term
  level : Level
  session : Session

namespace Question

def path (q : Question) : Path :=
  q.level.path.child q.key

/-- What the callback decides, if it comes to a verdict. -/
def verdict? (q : Question) : Option Verdict :=
  (q.callback.apply q.key q.value q.level q.session).1

/-- The callback fails: it comes to no verdict. -/
def failed (q : Question) : Bool :=
  q.verdict?.isNone

/-- What has been created when the callback is done. -/
def after (q : Question) : Session :=
  (q.callback.apply q.key q.value q.level q.session).2

/-- Questions that follow each other: each callback is shown what the one before it has left. -/
inductive Chain : Session → List Question → Session → Prop where
  | nil (session : Session) : Chain session [] session
  | cons {q : Question} {qs : List Question} {last : Session} :
    Chain q.after qs last → Chain q.session (q :: qs) last

/-- Questions chain when each starts in the session that the one before it left. -/
theorem Chain.append {first middle last : Session} {qs qs' : List Question} (h : Chain first qs middle)
    (h' : Chain middle qs' last) : Chain first (qs ++ qs') last := by
  induction h with
  | nil => exact h'
  | cons _ ih => exact .cons (ih h')

end Question

/-- What a run does beside its result. -/
inductive Mark where
  /-- A key without a rule is met. It is not `kept` if the alternative it stands in is given up. -/
  | noted (path : Path) (kept : Bool)
  | asked (q : Question)

namespace Mark

/-- The mark of an alternative that is given up. -/
def giveUp : Mark → Mark
  | noted path _ => noted path false
  | asked q => asked q

/-- The path of an unknown key, given up or not. -/
def noted? : Mark → Option Path
  | noted path _ => some path
  | asked _ => none

/-- The path of an unknown key that is not given up. -/
def kept? : Mark → Option Path
  | noted path true => some path
  | noted _ false | asked _ => none

def question? : Mark → Option Question
  | noted _ _ => none
  | asked q => some q

/-- A callback that is asked and fails. -/
def failed : Mark → Bool
  | noted _ _ => false
  | asked q => q.failed

/-- The events that a mark leaves; `warn` tells whether unknown keys are warned of. -/
def events (warn : Bool) : Mark → List Event
  | noted path _ => if warn then [.unknownKey path] else []
  | asked q => if q.failed then [.callbackFault q.path q.key] else []

@[simp] theorem events_giveUp (warn : Bool) (m : Mark) : m.giveUp.events warn = m.events warn := by
  cases m <;> rfl

@[simp] theorem question?_giveUp (m : Mark) : m.giveUp.question? = m.question? := by
  cases m <;> rfl

@[simp] theorem failed_giveUp (m : Mark) : m.giveUp.failed = m.failed := by
  cases m <;> rfl

@[simp] theorem kept?_giveUp (m : Mark) : m.giveUp.kept? = none := by
  cases m <;> rfl

end Mark

/-! ## Traces -/

variable {α β : Type}

/-- The marks of a run, told from the journal it starts with. -/
abbrev Trace := Journal → List Mark

/-- The marks of a rule on its way through a value. -/
abbrev Tracer := Key → Term → Level → Trace

namespace Trace

def none : Trace := fun _ => []

/-- The trace of a sequence: the second run follows if the first one succeeds. -/
def andThen (first : Trace) (x : Run α) (next : α → Trace) : Trace := fun j =>
  first j ++ match x j with
    | (.ok a, j') => next a j'
    | (.error _, _) => []

/-- The trace of going through a list, step by step. -/
def fold (step : β → α → Run β) (trace : β → α → Trace) : List α → β → Trace
  | [], _ => none
  | a :: as, b => (trace b a).andThen (step b a) (fold step trace as)

end Trace

namespace Level

/-- The trace of one pair: a key without a rule is noted. -/
def processTrace (tracers : List (Key × Tracer)) (l : Level) (pair : Key × Term) : Trace := fun j =>
  match valueFor? j.session.symbols tracers pair.1 with
  | none => [.noted (l.path.child pair.1) true]
  | some trace => trace pair.1 pair.2 l j

/-- The trace of a default, which is passed over if its name has been accepted. -/
def defaultTrace (tracers : List (Key × Tracer)) (l : Level) (pair : Key × Term) : Trace :=
  if l.has pair.1 then .none else l.processTrace tracers pair

/-- The trace of a level: of its pairs, and then of its defaults. -/
def trace (table : List (Key × Dispatch)) (tracers : List (Key × Tracer)) (defaults : Pairs)
    (fill : Bool) (pairs : Pairs) (l : Level) : Trace :=
  (Trace.fold (process table) (processTrace tracers) pairs l).andThen (pairs.foldlM (process table) l)
    (Trace.fold (processDefault table) (defaultTrace tracers) (if fill then defaults else []))

end Level

namespace Dispatch

def callbackTrace (c : Callback) : Tracer := fun key value l j =>
  [.asked ⟨c, key, value, l, j.session⟩]

/-- The trace of dispatching items. None is looked at after a bulk replacement. -/
def itemsTrace (dispatch : Term → Run Found) (trace : Term → Trace) : List Term → Trace
  | [] => .none
  | t :: ts => (trace t).andThen (dispatch t) fun found =>
    match found with
    | .replaceAll _ => .none
    | .accept _ _ _ _ | .drop => itemsTrace dispatch trace ts

/-- The trace of a choice: an alternative that fails by the data is given up for the next one. -/
def firstOfTrace : List (Dispatch × Tracer) → Tracer
  | [], _, _, _ => .none
  | (d, trace) :: ds, key, value, l => fun j =>
    match d key value l j with
    | (.error e, j') =>
      if e.isData then (trace key value l j).map Mark.giveUp ++ firstOfTrace ds key value l j'
      else trace key value l j
    | (.ok _, _) => trace key value l j

/-- The trace of a level of its own. -/
def nestedTrace (table : List (Key × Dispatch)) (tracers : List (Key × Tracer)) (defaults : Pairs) :
    Tracer := fun key value l =>
  value.pairs?.elim .none fun pairs =>
    Level.trace table tracers defaults (!pairs.isEmpty) pairs (.start (l.path.child key) l.options)

end Dispatch

mutual

/-- The trace of a rule on its way through a value. -/
def Rule.trace : Rule → Tracer
  | .type _ | .ignore => fun _ _ _ => .none
  | .list _ inner => fun key value l =>
    Dispatch.itemsTrace (fun t => inner.dispatch key t l) (fun t => inner.trace key t l)
      (ListRule.elements value)
  | .oneOf alternatives => Dispatch.firstOfTrace (Rule.traceAll alternatives)
  | .nested s => s.nestedTrace
  | .callback c => Dispatch.callbackTrace c

def Schema.nestedTrace : Schema → Tracer
  | ⟨fields, defaults, _⟩ =>
    Dispatch.nestedTrace (Rule.dispatchFields fields) (Rule.traceFields fields) defaults

def Rule.traceAll : List Rule → List (Dispatch × Tracer)
  | [] => []
  | r :: rs => (r.dispatch, r.trace) :: Rule.traceAll rs

def Rule.traceFields : List (Key × Rule) → List (Key × Tracer)
  | [] => []
  | (k, r) :: fs => (k, r.trace) :: Rule.traceFields fs

end

/-- The trace of a call. -/
def Schema.trace (s : Schema) (options : Options) (input : Term) : Trace :=
  input.pairs?.elim .none fun pairs =>
    Level.trace (Rule.dispatchFields s.fields) (Rule.traceFields s.fields) s.defaults true pairs
      (.start ⟨options.path⟩ options)

theorem Rule.traceFields_eq_map (fields : List (Key × Rule)) :
    traceFields fields = fields.map fun f => (f.1, f.2.trace) := by
  induction fields with
  | nil => rw [traceFields, List.map_nil]
  | cons f fs ih => rw [traceFields, ih, List.map_cons]

theorem Rule.valueFor?_traceFields (symbols : SymbolTable) (s : Schema) (key : Key) :
    valueFor? symbols (traceFields s.fields) key = (s.ruleFor? symbols key).map trace := by
  rw [traceFields_eq_map, valueFor?_map, Schema.ruleFor?]

theorem Rule.traceAll_eq_map (rules : List Rule) :
    traceAll rules = rules.map fun r => (r.dispatch, r.trace) := by
  induction rules with
  | nil => rw [traceAll, List.map_nil]
  | cons r rs ih => rw [traceAll, ih, List.map_cons]

theorem Schema.nestedTrace_eq (s : Schema) : s.nestedTrace
    = Dispatch.nestedTrace (Rule.dispatchFields s.fields) (Rule.traceFields s.fields) s.defaults := by
  cases s
  rw [nestedTrace]

namespace Level

variable {s : Schema} {l : Level} {pair : Key × Term} {j : Journal}

/-- The marks of a key without a rule: it is noted. -/
theorem processTrace_unruled (h : s.ruleFor? j.session.symbols pair.1 = none) :
    l.processTrace (Rule.traceFields s.fields) pair j = [.noted (l.path.child pair.1) true] := by
  simp only [processTrace, Rule.valueFor?_traceFields, h, Option.map_none]

theorem processTrace_ruled {r : Rule} (h : s.ruleFor? j.session.symbols pair.1 = some r) :
    l.processTrace (Rule.traceFields s.fields) pair j = r.trace pair.1 pair.2 l j := by
  simp only [processTrace, Rule.valueFor?_traceFields, h, Option.map_some]

end Level

/-! ## The end of a run -/

/-- Marks of which none is a callback that fails. -/
def NoFault (marks : List Mark) : Prop :=
  ∀ m ∈ marks, m.failed = false

/-- How a run ends, by its marks: with a fault if its last mark is a callback that failed, and the first
to do so; otherwise in some other way, which is never an error of the schema. -/
inductive EndsBy (marks : List Mark) : Except ParseError α → Prop where
  | fault {before : List Mark} {q : Question} : marks = before ++ [.asked q] → NoFault before →
    q.failed = true → EndsBy marks (.error (.callbackFault q.path))
  | data {e : ParseError} : e.isData = true → NoFault marks → EndsBy marks (.error e)
  | ok (a : α) : NoFault marks → EndsBy marks (.ok a)

theorem noFault_nil : NoFault [] :=
  List.forall_mem_nil _

theorem NoFault.append {marks marks' : List Mark} (h : NoFault marks) (h' : NoFault marks') :
    NoFault (marks ++ marks') :=
  List.forall_mem_append.2 ⟨h, h'⟩

/-- Giving an alternative up makes no fault of the program. -/
theorem noFault_giveUp {marks : List Mark} (h : NoFault marks) :
    NoFault (marks.map Mark.giveUp) := by
  intro m hm
  obtain ⟨m', hm', rfl⟩ := List.mem_map.1 hm
  rw [Mark.failed_giveUp]
  exact h m' hm'

namespace EndsBy

variable {marks marks' : List Mark}

/-- A trace without a fault in front does not change how the whole ends. -/
theorem after {r : Except ParseError α} (h : NoFault marks) (h' : EndsBy marks' r) :
    EndsBy (marks ++ marks') r := by
  cases h' with
  | fault last before failed =>
    refine .fault ?_ (h.append before) failed
    rw [last, List.append_assoc]
  | data e none => exact .data e (h.append none)
  | ok a none => exact .ok a (h.append none)

/-- An error ends what follows in the same way. -/
theorem error {e : ParseError} (h : EndsBy marks (.error e : Except ParseError α)) :
    EndsBy marks (.error e : Except ParseError β) := by
  cases h with
  | fault last before failed => exact .fault last before failed
  | data data none => exact .data data none

theorem noFault_of_ok {a : α} (h : EndsBy marks (.ok a)) : NoFault marks := by
  cases h with
  | ok _ none => exact none

/-- A run whose outcome is a fault about the data met no fault of the program, which would have
ended it first. -/
theorem noFault_of_data {e : ParseError} (h : EndsBy marks (.error e : Except ParseError α))
    (data : e.isData = true) : NoFault marks := by
  cases h with
  | fault => cases data
  | data _ none => exact none

end EndsBy

/-! ## Told runs -/

/-- The run from `j` to `j'` with this result is told by the marks. `gains` says what the result has to
do with the unknown paths that were noted and not given up. -/
structure Told (warn : Bool) (gains : α → List Path → Prop) (marks : List Mark) (j : Journal)
    (run : Except ParseError α × Journal) : Prop where
  events : run.2.events = j.events ++ marks.flatMap (Mark.events warn)
  sessions : Question.Chain j.session (marks.filterMap Mark.question?) run.2.session
  ends : EndsBy marks run.1
  kept : ∀ a, run.1 = .ok a → gains a (marks.filterMap Mark.kept?)

namespace Told

variable {warn : Bool} {gains : α → List Path → Prop} {marks marks' : List Mark} {j j' : Journal}

/-- A result that is reached at once. -/
theorem ok {a : α} (h : gains a []) : Told warn gains [] j (.ok a, j) where
  events := (List.append_nil _).symm
  sessions := .nil _
  ends := .ok a noFault_nil
  kept a' same := by
    cases same
    exact h

/-- An error of the data that is reached at once. -/
theorem data {e : ParseError} (h : e.isData = true) : Told warn gains [] j (.error e, j) where
  events := (List.append_nil _).symm
  sessions := .nil _
  ends := .data h noFault_nil
  kept a same := by cases same

theorem mono {gains' : α → List Path → Prop} {run : Except ParseError α × Journal}
    (h : Told warn gains marks j run) (imp : ∀ a paths, gains a paths → gains' a paths) :
    Told warn gains' marks j run :=
  ⟨h.events, h.sessions, h.ends, fun a ha => imp a _ (h.kept a ha)⟩

/-- What follows a run that succeeded. -/
theorem followed {a : α} {gains' : β → List Path → Prop} {run : Except ParseError β × Journal}
    (h : Told warn gains marks j (.ok a, j'))
    (h' : Told warn (fun b paths => gains' b (marks.filterMap Mark.kept? ++ paths)) marks' j' run) :
    Told warn gains' (marks ++ marks') j run where
  events := by
    rw [h'.events, h.events, List.flatMap_append, List.append_assoc]
  sessions := by
    rw [List.filterMap_append]
    exact h.sessions.append h'.sessions
  ends := h'.ends.after h.ends.noFault_of_ok
  kept b hb := by
    rw [List.filterMap_append]
    exact h'.kept b hb

/-- An error ends a sequence. -/
theorem stopped {e : ParseError} {gains' : β → List Path → Prop}
    (h : Told warn gains marks j (.error e, j')) : Told warn gains' marks j (.error e, j') :=
  ⟨h.events, h.sessions, h.ends.error, nofun⟩

/-- The next alternative after one that failed by the data. -/
theorem givenUp {e : ParseError} {run : Except ParseError α × Journal}
    (h : Told warn gains marks j (.error e, j')) (data : e.isData = true)
    (h' : Told warn gains marks' j' run) :
    Told warn gains (marks.map Mark.giveUp ++ marks') j run where
  events := by
    have first : j'.events = j.events ++ marks.flatMap (Mark.events warn) := h.events
    rw [h'.events, first]
    simp only [List.flatMap_append, List.flatMap_map, Mark.events_giveUp, List.append_assoc]
  sessions := by
    have same : (marks.map Mark.giveUp).filterMap Mark.question? = marks.filterMap Mark.question? := by
      simp only [List.filterMap_map, Function.comp_def, Mark.question?_giveUp]
    rw [List.filterMap_append, same]
    exact h.sessions.append h'.sessions
  ends := h'.ends.after (noFault_giveUp (h.ends.noFault_of_data data))
  kept a ha := by
    have lost : (marks.map Mark.giveUp).filterMap Mark.kept? = [] := by
      simp [List.filterMap_map]
    rw [List.filterMap_append, lost, List.nil_append]
    exact h'.kept a ha

/-- A sequence is told by the two traces, one after the other. -/
theorem bind {trace : Trace} {x : Run α} {next : α → Trace} {f : α → Run β}
    {gains' : β → List Path → Prop} (h : Told warn gains (trace j) j (x j))
    (h' : ∀ a paths j', gains a paths →
      Told warn (fun b more => gains' b (paths ++ more)) (next a j') j' (f a j')) :
    Told warn gains' (trace.andThen x next j) j ((x >>= f) j) := by
  rw [Trace.andThen, Run.bind_apply]
  rcases hx : x j with ⟨e | a, j'⟩ <;> rw [hx] at h
  · simp only [List.append_nil]
    exact h.stopped
  · exact h.followed (h' a _ j' (h.kept a rfl))

/-- A sequence whose second run leaves no marks. -/
theorem map {trace : Trace} {x : Run α} {f : α → Run β} {gains' : β → List Path → Prop}
    (h : Told warn gains (trace j) j (x j))
    (h' : ∀ a paths j', gains a paths →
      Told warn (fun b more => gains' b (paths ++ more)) [] j' (f a j')) :
    Told warn gains' (trace j) j ((x >>= f) j) := by
  have both : trace j = trace.andThen x (fun _ => Trace.none) j := by
    rw [Trace.andThen]
    split <;> exact (List.append_nil _).symm
  rw [both]
  exact h.bind h'

end Told

/-! ## Levels -/

def Found.unknown : Found → List Path
  | .accept _ _ _ unknown => unknown
  | .drop | .replaceAll _ => []

/-- A field was found to have these unknown paths. -/
def Found.Gains (found : Found) (paths : List Path) : Prop :=
  found.unknown = paths

namespace Level

/-- The second level goes on from the first one with these unknown paths more. -/
structure Gains (l l' : Level) (paths : List Path) : Prop where
  unknown : l'.unknown = l.unknown ++ paths
  options : l'.options = l.options

theorem gains_nil (l : Level) : l.Gains l [] :=
  ⟨(List.append_nil _).symm, rfl⟩

theorem Gains.trans {l l' l'' : Level} {paths more : List Path} (h : l.Gains l' paths)
    (h' : l'.Gains l'' more) : l.Gains l'' (paths ++ more) :=
  ⟨by rw [h'.unknown, h.unknown, List.append_assoc], h'.options.trans h.options⟩

/-- A level gains from what it takes the unknown paths found below. -/
theorem gains_take {found : Found} {paths : List Path} (h : found.Gains paths) (l : Level) :
    l.Gains (l.take found) paths := by
  cases h
  cases found with
  | accept => exact ⟨rfl, rfl⟩
  | drop => exact l.gains_nil
  | replaceAll => exact ⟨(List.append_nil _).symm, rfl⟩

/-- The run is a step of the level that the trace tells. -/
def TellsStep (l : Level) (trace : Trace) (step : Run Level) : Prop :=
  ∀ j, Told l.options.warnUnknown l.Gains (trace j) j (step j)

theorem tells_skip (l : Level) : l.TellsStep .none (pure l) :=
  fun _ => .ok l.gains_nil

/-- A step, and then another one from wherever it has led. -/
theorem TellsStep.bind {l : Level} {trace : Trace} {step : Run Level} {next : Level → Trace}
    {rest : Level → Run Level} (h : l.TellsStep trace step)
    (h' : ∀ l' : Level, l'.TellsStep (next l') (rest l')) :
    l.TellsStep (trace.andThen step next) (step >>= rest) := by
  intro j
  apply (h j).bind
  intro l' paths j' gained
  have told := h' l' j'
  rw [gained.options] at told
  exact told.mono fun _ _ => gained.trans

/-- A fold is told by the traces of its steps, by induction. -/
theorem tells_fold {step : Level → α → Run Level} {trace : Level → α → Trace}
    (h : ∀ (l : Level) a, l.TellsStep (trace l a) (step l a)) (as : List α) (l : Level) :
    l.TellsStep (Trace.fold step trace as l) (as.foldlM step l) := by
  induction as generalizing l with
  | nil => exact tells_skip l
  | cons a as ih =>
    rw [List.foldlM_cons]
    exact (h l a).bind ih

/-- Noting a key is told by its one mark, and warned of where `warnUnknown` is set. -/
theorem tells_note (l : Level) (key : Key) :
    l.TellsStep (fun _ => [.noted (l.path.child key) true]) (l.note key) := by
  intro j
  unfold note
  constructor
  · cases l.options.warnUnknown
    · exact (List.append_nil _).symm
    · rfl
  · cases l.options.warnUnknown <;> exact .nil _
  · exact .ok _ (List.forall_mem_singleton.2 rfl)
  · rintro l' ⟨⟩
    exact ⟨rfl, rfl⟩

end Level

/-- The trace tells what the rule makes of a field. -/
def Rule.Tells (r : Rule) : Prop :=
  ∀ key value (l : Level) j,
    Told l.options.warnUnknown Found.Gains (r.trace key value l j) j (r.dispatch key value l j)

namespace Level

variable {s : Schema}

/-- The step is told by its trace, if each field's rule is told by its own. -/
theorem tells_process (h : ∀ f ∈ s.fields, f.2.Tells) (l : Level) (pair : Key × Term) :
    l.TellsStep (l.processTrace (Rule.traceFields s.fields) pair)
      (l.process (Rule.dispatchFields s.fields) pair) := by
  intro j
  cases hr : s.ruleFor? j.session.symbols pair.1 with
  | none =>
    rw [process_unruled hr, processTrace_unruled hr]
    exact l.tells_note pair.1 j
  | some r =>
    obtain ⟨k, -, mem⟩ := Schema.mem_of_ruleFor? hr
    rw [process_ruled hr, processTrace_ruled hr]
    apply (h (k, r) mem pair.1 pair.2 l j).map
    intro found paths j' gained
    refine .ok ?_
    rw [List.append_nil]
    exact gains_take gained l

theorem tells_processDefault (h : ∀ f ∈ s.fields, f.2.Tells) (l : Level) (pair : Key × Term) :
    l.TellsStep (l.defaultTrace (Rule.traceFields s.fields) pair)
      (l.processDefault (Rule.dispatchFields s.fields) pair) := by
  unfold defaultTrace
  by_cases has : l.has pair.1 = true
  · rw [processDefault_of_has has, if_pos has]
    exact tells_skip l
  · rw [processDefault_of_not_has has, if_neg has]
    exact tells_process h l pair

/-- Asking for mandatory names leaves no mark. -/
theorem tells_demand (l : Level) (keys : List Key) : l.TellsStep .none (l.demand keys) := by
  intro j
  unfold demand
  cases keys.find? fun k => !l.has k with
  | none => exact .ok l.gains_nil
  | some k => exact .data rfl

/-- The run is told by its trace: pairs, defaults, and nothing for the mandatory names. -/
theorem tells_run (h : ∀ f ∈ s.fields, f.2.Tells) (defaults : Pairs) (mandatory : List Key)
    (fill : Bool) (pairs : Pairs) (l : Level) :
    l.TellsStep (trace (Rule.dispatchFields s.fields) (Rule.traceFields s.fields) defaults fill pairs l)
      (run (Rule.dispatchFields s.fields) defaults mandatory fill pairs l) := by
  apply (tells_fold (tells_process h) pairs l).bind
  intro l' j
  apply Told.map (tells_fold (tells_processDefault h) _ l' j)
  intro l'' paths j' gained
  have told := l''.tells_demand mandatory j'
  rw [gained.options] at told
  exact told.mono fun _ _ => gained.trans

end Level

/-! ## Each kind of rule -/

namespace Dispatch

variable {key : Key} {value : Term} {l : Level}

/-- A callback's dispatch is told by its question, and by the fault that it logs when the callback
panics. -/
theorem tells_callback (c : Callback) (j : Journal) :
    Told l.options.warnUnknown Found.Gains (callbackTrace c key value l j) j
      (callback c key value l j) := by
  rcases hv : c.apply key value l j.session with ⟨_ | v, session⟩
  · have failed : Question.failed ⟨c, key, value, l, j.session⟩ = true := by
      simp only [Question.failed, Question.verdict?, hv, Option.isNone_none]
    rw [callback_of_none hv]
    refine ⟨?_, ?_, .fault (List.nil_append _).symm noFault_nil failed, nofun⟩
    · simp only [callbackTrace, List.flatMap_singleton, Mark.events, failed, if_true]
      rfl
    · refine .cons (q := ⟨c, key, value, l, j.session⟩) ?_
      simp only [Question.after, hv]
      exact .nil session
  · have answered : Question.failed ⟨c, key, value, l, j.session⟩ = false := by
      simp only [Question.failed, Question.verdict?, hv, Option.isNone_some]
    have none : NoFault (callbackTrace c key value l j) := List.forall_mem_singleton.2 answered
    rw [callback_of_some hv]
    refine ⟨?_, ?_, ?_, ?_⟩
    · simp only [callbackTrace, List.flatMap_singleton, Mark.events, answered, Bool.false_eq_true,
        if_false, List.append_nil]
    · refine .cons (q := ⟨c, key, value, l, j.session⟩) ?_
      simp only [Question.after, hv]
      exact .nil session
    · cases v with
      | accept | replace | rename | replaceAll => exact .ok _ none
      | reject | error => exact .data rfl none
    · intro found hf
      cases v with
      | accept | replace | rename | replaceAll =>
        cases hf
        rfl
      | reject | error => cases hf

/-- The elements of a list, by induction: what each gains is joined. -/
theorem tells_items {dispatch : Term → Run Found} {trace : Term → Trace} {warn : Bool}
    (h : ∀ t j, Told warn Found.Gains (trace t j) j (dispatch t j)) (path : Path) (ts : List Term)
    (j : Journal) :
    Told warn (fun taken paths => taken.2.2 = paths) (itemsTrace dispatch trace ts j) j
      (items path dispatch ts j) := by
  induction ts generalizing j with
  | nil => exact .ok rfl
  | cons t ts ih =>
    apply (h t j).bind
    intro found paths j' gained
    cases gained
    cases found with
    | accept _ value flattened unknown =>
      apply (ih j').map
      rintro ⟨values, flattened', unknown'⟩ paths j'' gained
      cases gained
      refine .ok ?_
      rw [List.append_nil]
      rfl
    | drop => exact ih j'
    | replaceAll => exact .data rfl

/-- Alternatives, by induction: the marks of those given up stay, as given up, in front of those of
the one taken. -/
theorem tells_firstOf {ds : List (Dispatch × Tracer)} {warn : Bool}
    (h : ∀ d ∈ ds, ∀ j, Told warn Found.Gains (d.2 key value l j) j (d.1 key value l j))
    (count : Nat) (j : Journal) :
    Told warn Found.Gains (firstOfTrace ds key value l j) j
      (firstOf count (ds.map Prod.fst) key value l j) := by
  induction ds generalizing j with
  | nil => exact .data rfl
  | cons d ds ih =>
    obtain ⟨first, others⟩ := List.forall_mem_cons.1 h
    have told := first j
    rw [List.map_cons]
    rcases hd : d.1 key value l j with ⟨e | found, j'⟩ <;> rw [hd] at told
    · rw [firstOf_of_error hd]
      simp only [firstOfTrace, hd]
      by_cases data : e.isData = true
      · -- The alternatives after this one start from the journal that it leaves behind.
        rw [if_pos data, if_pos data]
        exact told.givenUp data (ih others j')
      · rw [if_neg data, if_neg data]
        exact told
    · rw [firstOf_of_ok hd]
      simp only [firstOfTrace, hd]
      exact told

/-- A nested level is told by the trace of its run, from an empty level. -/
theorem tells_nested {s : Schema} (h : ∀ f ∈ s.fields, f.2.Tells) (mandatory : List Key)
    (j : Journal) :
    Told l.options.warnUnknown Found.Gains
      (nestedTrace (Rule.dispatchFields s.fields) (Rule.traceFields s.fields) s.defaults key value l j) j
      (nested (Rule.dispatchFields s.fields) s.defaults mandatory key value l j) := by
  unfold nestedTrace
  cases hp : value.pairs? with
  | none =>
    rw [nested_of_none hp]
    exact .data rfl
  | some pairs =>
    rw [nested_of_pairs hp]
    apply Told.map (Level.tells_run h s.defaults mandatory (!pairs.isEmpty) pairs
      (.start (l.path.child key) l.options) j)
    intro inner paths j' gained
    refine .ok ?_
    rw [List.append_nil]
    exact gained.unknown

end Dispatch

/-- Every rule is told by its trace. -/
theorem Rule.tells (r : Rule) : r.Tells := by
  induction r using Rule.induct with
  | type tag =>
    intro key value l j
    rw [dispatch, trace, Dispatch.type]
    cases tag.validate j.session.symbols value with
    | error => exact .data rfl
    | ok => exact .ok rfl
  | list d inner ih =>
    intro key value l j
    rw [dispatch, trace]
    apply (Dispatch.tells_items (fun t => ih key t l) (l.path.child key) _ j).map
    intro taken paths j' gained
    cases gained
    exact .ok (List.append_nil _).symm
  | oneOf rules ih =>
    intro key value l j
    have alternatives : dispatchAll rules = (traceAll rules).map Prod.fst := by
      rw [dispatchAll_eq_map, traceAll_eq_map, List.map_map]
      rfl
    rw [dispatch, trace, alternatives]
    apply Dispatch.tells_firstOf
    rw [traceAll_eq_map]
    intro d hd
    obtain ⟨r, hr, rfl⟩ := List.mem_map.1 hd
    exact ih r hr key value l
  | nested s ih =>
    intro key value l j
    rw [dispatch, trace, s.dispatch_eq, s.nestedTrace_eq]
    exact Dispatch.tells_nested ih _ j
  | callback c =>
    intro key value l j
    rw [dispatch, trace]
    exact Dispatch.tells_callback c j
  | ignore =>
    intro key value l j
    rw [dispatch, trace]
    exact .ok rfl

/-- Every call is told by its trace. -/
theorem Schema.told_parse (s : Schema) (options : Options) (input : Term) (j : Journal) :
    Told options.warnUnknown (fun out paths => out.unknown = paths) (s.trace options input j) j
      (s.parse options input j) := by
  unfold trace
  cases hp : input.pairs? with
  | none =>
    rw [parse_of_none hp]
    exact .data rfl
  | some pairs =>
    rw [parse_of_pairs hp]
    apply Told.map (Level.tells_run (fun f _ => Rule.tells f.2) s.defaults s.mandatoryKeys true pairs
      (.start ⟨options.path⟩ options) j)
    intro l paths j' gained
    refine .ok ?_
    rw [List.append_nil]
    exact gained.unknown

end Conform
