import Conform.Proofs.Level.Invariant
import Conform.Proofs.Level.Trace

/-!
# What holds of every mark

What holds of each key that a run may note and of each callback that it may ask holds of all the marks in
its trace; and what the levels keep on the way holds of the level that a callback is shown.
-/

namespace Conform

namespace Mark

/-- A mark that is no question, or one with this property. -/
def Asks (P : Question → Prop) (m : Mark) : Prop :=
  ∀ q, m.question? = some q → P q

variable {P : Question → Prop}

theorem asks_noted (path : Path) : (noted path true).Asks P :=
  nofun

theorem asks_asked {q : Question} (h : P q) : (asked q).Asks P := by
  rintro _ ⟨⟩
  exact h

theorem asks_giveUp {m : Mark} (h : m.Asks P) : m.giveUp.Asks P :=
  fun q asked => h q (m.question?_giveUp ▸ asked)

/-- Where each mark of a trace `Asks` only what has the property, every question in it has it. -/
theorem forall_question {marks : List Mark} (h : ∀ m ∈ marks, m.Asks P) :
    ∀ q ∈ marks.filterMap question?, P q := by
  intro q hq
  obtain ⟨m, hm, asked⟩ := List.mem_filterMap.1 hq
  exact h m hm q asked

end Mark

/-- A property of all the marks that a run may leave. -/
def Trace.Each (P : Mark → Prop) (trace : Trace) : Prop :=
  ∀ j, ∀ m ∈ trace j, P m

namespace Trace

variable {P : Mark → Prop}

theorem each_none : none.Each P :=
  fun _ => List.forall_mem_nil _

/-- A trace of two parts has the property when both have it, the second for each value that the
first run can give. -/
theorem Each.andThen {first : Trace} {x : Run α} {next : α → Trace} (h : first.Each P)
    (h' : ∀ a j j', x j = (.ok a, j') → (next a).Each P) : (first.andThen x next).Each P := by
  intro j m hm
  rcases List.mem_append.1 hm with hm | hm
  · exact h j m hm
  · rcases hx : x j with ⟨e | a, j'⟩ <;> rw [hx] at hm
    · cases hm
    · exact h' a j j' hx j' m hm

/-- What holds of the marks of each step, as long as the steps keep `I`, holds of those of a fold. -/
theorem each_fold {step : β → α → Run β} {trace : β → α → Trace} {I : β → Prop}
    (kept : ∀ b a j b' j', I b → step b a j = (.ok b', j') → I b')
    (h : ∀ b a, I b → (trace b a).Each P) (as : List α) {b : β} (start : I b) :
    (fold step trace as b).Each P := by
  induction as generalizing b with
  | nil => exact each_none
  | cons a as ih => exact (h b a start).andThen fun b' j j' pass => ih (kept b a j b' j' start pass)

end Trace

namespace Level

variable {P : Mark → Prop} {I : Level → Prop} {s : Schema}

/-- The step: the marks of one pair are those of its rule, or the note of an unknown key. -/
theorem each_processTrace (noted : ∀ path, P (.noted path true))
    (h : ∀ f ∈ s.fields, ∀ key value l, I l → (f.2.trace key value l).Each P) (l : Level)
    (pair : Key × Term) (start : I l) :
    (l.processTrace (Rule.traceFields s.fields) pair).Each P := by
  intro j m hm
  cases hr : s.ruleFor? j.session.symbols pair.1 with
  | none =>
    rw [processTrace_unruled hr] at hm
    rw [List.mem_singleton.1 hm]
    exact noted _
  | some r =>
    obtain ⟨k, -, mem⟩ := Schema.mem_of_ruleFor? hr
    rw [processTrace_ruled hr] at hm
    exact h (k, r) mem pair.1 pair.2 l start j m hm

/-- The run: every pair and every default is met at a level that `I` holds of, since the dispatches
keep `I`. -/
theorem each_trace (keeps : Keeps I s.fields) (noted : ∀ path, P (.noted path true))
    (h : ∀ f ∈ s.fields, ∀ key value l, I l → (f.2.trace key value l).Each P) (defaults : Pairs)
    (fill : Bool) (pairs : Pairs) {l : Level} (start : I l) :
    (trace (Rule.dispatchFields s.fields) (Rule.traceFields s.fields) defaults fill pairs l).Each P := by
  have pair := each_processTrace noted h
  have default (l : Level) (d : Key × Term) (start : I l) :
      (l.defaultTrace (Rule.traceFields s.fields) d).Each P := by
    unfold defaultTrace
    split
    · exact Trace.each_none
    · exact pair l d start
  refine (Trace.each_fold (fun _ _ _ _ _ => keeps.process) pair pairs start).andThen ?_
  intro l' j j' gathered
  exact Trace.each_fold (fun _ _ _ _ _ => keeps.processDefault) default _ (keeps.gather start gathered)

end Level

namespace Dispatch

variable {P : Mark → Prop}

theorem each_itemsTrace {dispatch : Term → Run Found} {trace : Term → Trace}
    (h : ∀ t, (trace t).Each P) (ts : List Term) : (itemsTrace dispatch trace ts).Each P := by
  induction ts with
  | nil => exact Trace.each_none
  | cons t ts ih =>
    apply (h t).andThen
    intro found _ _ _
    cases found with
    | accept | drop => exact ih
    | replaceAll => exact Trace.each_none

/-- The marks of given-up alternatives go through `giveUp`, so the property has to survive it. -/
theorem each_firstOfTrace (giveUp : ∀ m, P m → P m.giveUp) {ds : List (Dispatch × Tracer)} {key : Key}
    {value : Term} {l : Level} (h : ∀ d ∈ ds, (d.2 key value l).Each P) :
    (firstOfTrace ds key value l).Each P := by
  induction ds with
  | nil => exact Trace.each_none
  | cons d ds ih =>
    obtain ⟨first, others⟩ := List.forall_mem_cons.1 h
    intro j m hm
    unfold firstOfTrace at hm
    rcases hd : d.1 key value l j with ⟨e | found, j'⟩ <;> simp only [hd] at hm
    · split at hm
      · rcases List.mem_append.1 hm with hm | hm
        · obtain ⟨m', hm', rfl⟩ := List.mem_map.1 hm
          exact giveUp m' (first j m' hm')
        · exact ih others j' m hm
      · exact first j m hm
    · exact first j m hm

end Dispatch

section Kept

variable {P : Mark → Prop} {I : Level → Prop} (start : ∀ path options, I (.start path options))
  (keeps : ∀ fields, Level.Keeps I fields) (noted : ∀ path, P (.noted path true))
include start keeps noted

/-- What holds of the keys that are noted, and of the callbacks in a rule as long as they are shown levels
with `I`, holds of every mark the rule may leave, if the choices in it keep it for alternatives that are
given up. -/
theorem Rule.each_trace_of_keeps {r : Rule}
    (asked : ∀ q : Question, Within (.callback q.callback) r → I q.level → P (.asked q))
    (giveUp : ∀ rules, Within (.oneOf rules) r → ∀ m, P m → P m.giveUp) (key : Key) (value : Term)
    {l : Level} (h : I l) : (r.trace key value l).Each P := by
  induction r using Rule.induct generalizing key value l with
  | type | ignore =>
    rw [trace]
    exact Trace.each_none
  | list d inner ih =>
    rw [trace]
    apply Dispatch.each_itemsTrace
    intro t
    exact ih (fun q hq => asked q (.list hq)) (fun rules h => giveUp rules (.list h)) key t h
  | oneOf rules ih =>
    rw [trace, traceAll_eq_map]
    apply Dispatch.each_firstOfTrace (giveUp rules (.refl _))
    intro d hd
    obtain ⟨r, hr, rfl⟩ := List.mem_map.1 hd
    exact ih r hr (fun q hq => asked q (.oneOf hr hq)) (fun rules h => giveUp rules (.oneOf hr h))
      key value h
  | nested s ih =>
    rw [trace, s.nestedTrace_eq]
    unfold Dispatch.nestedTrace
    cases value.pairs? with
    | none => exact Trace.each_none
    | some pairs =>
      refine Level.each_trace (keeps s.fields) noted ?_ _ _ _ (start _ _)
      exact fun f hf key value l => ih f hf (fun q hq => asked q (.nested hf hq))
        (fun rules h => giveUp rules (.nested hf h)) key value
  | callback c =>
    rw [trace]
    intro j m hm
    rw [List.mem_singleton.1 hm]
    exact asked _ (.refl _) h

/-- The property of all marks of a parse, from the property of the questions the callbacks of the
schema are asked. `I` is what is known of the levels they are asked at. -/
theorem Schema.each_trace_of_keeps {s : Schema}
    (asked : ∀ q : Question, Rule.Within (.callback q.callback) (.nested s) → I q.level → P (.asked q))
    (giveUp : ∀ rules, Rule.Within (.oneOf rules) (.nested s) → ∀ m, P m → P m.giveUp)
    (options : Options) (input : Term) : (s.trace options input).Each P := by
  unfold trace
  cases input.pairs? with
  | none => exact Trace.each_none
  | some pairs =>
    refine Level.each_trace (keeps s.fields) noted ?_ _ _ _ (start _ _)
    exact fun f hf key value l => Rule.each_trace_of_keeps start keeps noted
      (fun q hq => asked q (.nested hf hq)) (fun rules h => giveUp rules (.nested hf h)) key value

end Kept

theorem Level.keeps_true (fields : List (Key × Rule)) : Keeps (fun _ => True) fields :=
  ⟨fun _ _ _ => trivial, fun _ _ _ _ _ _ _ _ _ => trivial⟩

/-- What holds of the marks whatever the levels keep. -/
theorem Rule.each_trace {P : Mark → Prop} (noted : ∀ path, P (.noted path true)) {r : Rule}
    (asked : ∀ q : Question, Within (.callback q.callback) r → P (.asked q))
    (giveUp : ∀ rules, Within (.oneOf rules) r → ∀ m, P m → P m.giveUp) (key : Key) (value : Term)
    (l : Level) : (r.trace key value l).Each P :=
  each_trace_of_keeps (fun _ _ => trivial) Level.keeps_true noted (fun q within _ => asked q within) giveUp
    key value trivial

/-- The form without an invariant on levels: what each callback's question has, every mark has. -/
theorem Schema.each_trace {P : Mark → Prop} (noted : ∀ path, P (.noted path true)) {s : Schema}
    (asked : ∀ q : Question, Rule.Within (.callback q.callback) (.nested s) → P (.asked q))
    (giveUp : ∀ rules, Rule.Within (.oneOf rules) (.nested s) → ∀ m, P m → P m.giveUp)
    (options : Options) (input : Term) : (s.trace options input).Each P :=
  each_trace_of_keeps (fun _ _ => trivial) Level.keeps_true noted (fun q within _ => asked q within) giveUp
    options input

end Conform
