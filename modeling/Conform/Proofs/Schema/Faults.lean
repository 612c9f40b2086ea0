import Conform.Proofs.Level.EachMark

/-!
# Faults of callbacks

A callback that fails ends the call, from whatever depth: a choice goes on after an error of the data
only, and lists, levels and defaults pass every error on. So the callback that failed is the last one
that the call asked, the error has the path of its field, and the log has one error more. Where no
callback fails, the call ends in some other way, and logs no error.
-/

namespace Conform

/-- The callbacks that a call asks, in turn. -/
def Schema.questions (s : Schema) (options : Options) (input : Term) (j : Journal) : List Question :=
  (s.trace options input j).filterMap Mark.question?

def errorsOf (events : List Event) : List Event :=
  events.filter fun e => e.severity == "ERROR"

variable {marks : List Mark}

theorem errorsOf_append (events events' : List Event) :
    errorsOf (events ++ events') = errorsOf events ++ errorsOf events' :=
  List.filter_append _ _

/-- A mark leaves an error if it is a callback that fails. -/
theorem errorsOf_mark (warn : Bool) {m : Mark} (h : m.failed = false) : errorsOf (m.events warn) = [] := by
  cases m with
  | noted path => cases warn <;> rfl
  | asked q =>
    have answered : q.failed = false := h
    rw [Mark.events, answered]
    rfl

/-- Without a fault of the program no error is logged, whether or not unknown keys are warned of. -/
theorem errorsOf_of_noFault (h : NoFault marks) (warn : Bool) :
    errorsOf (marks.flatMap (Mark.events warn)) = [] := by
  induction marks with
  | nil => rfl
  | cons m ms ih =>
    obtain ⟨first, rest⟩ := List.forall_mem_cons.1 h
    rw [List.flatMap_cons, errorsOf_append, errorsOf_mark warn first, ih rest, List.nil_append]

theorem answered_of_noFault (h : NoFault marks) :
    ∀ q ∈ marks.filterMap Mark.question?, q.failed = false := by
  intro q hq
  obtain ⟨m, hm, same⟩ := List.mem_filterMap.1 hq
  cases m with
  | noted => cases same
  | asked =>
    cases same
    exact h _ hm

theorem noFault_of_answered (h : ∀ q ∈ marks.filterMap Mark.question?, q.failed = false) :
    NoFault marks := by
  intro m hm
  cases m with
  | noted => rfl
  | asked q => exact h q (List.mem_filterMap.2 ⟨.asked q, hm, rfl⟩)

/-- Where only the last of some questions fails, any that fails is the last one. -/
theorem eq_last_of_failed {answered before after : List Question} {last q : Question}
    (h : ∀ q ∈ answered, q.failed = false) (failed : q.failed = true)
    (split : answered ++ [last] = before ++ q :: after) : q = last ∧ after = [] := by
  rcases List.eq_nil_or_concat after with rfl | ⟨others, other, rfl⟩
  · obtain ⟨-, same⟩ := List.append_inj' split rfl
    exact ⟨(List.head_eq_of_cons_eq same).symm, rfl⟩
  · rw [List.concat_eq_append, ← List.cons_append, ← List.append_assoc] at split
    obtain ⟨same, -⟩ := List.append_inj' split rfl
    have mem : q ∈ answered := same ▸ List.mem_append_right _ List.mem_cons_self
    rw [h q mem] at failed
    cases failed

namespace Told

variable {α : Type} {warn : Bool} {gains : α → List Path → Prop} {j : Journal}
  {run : Except ParseError α × Journal}

/-- A run ends in a callback's fault iff a question in its trace was not answered. Alternatives
cannot hide it, as only faults about the data are given up on. -/
theorem fault_iff (h : Told warn gains marks j run) :
    (∃ path, run.1 = .error (.callbackFault path))
      ↔ ∃ q ∈ marks.filterMap Mark.question?, q.failed = true := by
  obtain ⟨r, j'⟩ := run
  have quiet (none : NoFault marks) : ¬∃ q ∈ marks.filterMap Mark.question?, q.failed = true := by
    rintro ⟨q, hq, failed⟩
    rw [answered_of_noFault none q hq] at failed
    cases failed
  cases h.ends with
  | @fault before q last _ failed =>
    have mem : q ∈ marks.filterMap Mark.question? :=
      List.mem_filterMap.2 ⟨.asked q, by rw [last]; exact List.mem_concat_self, rfl⟩
    exact ⟨fun _ => ⟨q, mem, failed⟩, fun _ => ⟨q.path, rfl⟩⟩
  | data data none =>
    refine ⟨?_, fun some => (quiet none some).elim⟩
    rintro ⟨path, ⟨⟩⟩
    cases data
  | ok a none =>
    refine ⟨?_, fun some => (quiet none some).elim⟩
    rintro ⟨path, ⟨⟩⟩

/-- A callback that fails is the last one, and the fault and the error in the log are about it. -/
theorem last_of_failed (h : Told warn gains marks j run) {before after : List Question} {q : Question}
    (split : marks.filterMap Mark.question? = before ++ q :: after) (failed : q.failed = true) :
    after = [] ∧ run.1 = .error (.callbackFault q.path) ∧
      errorsOf (marks.flatMap (Mark.events warn)) = [.callbackFault q.path q.key] := by
  obtain ⟨r, j'⟩ := run
  have some : ∃ q ∈ marks.filterMap Mark.question?, q.failed = true :=
    ⟨q, split ▸ List.mem_append_right _ List.mem_cons_self, failed⟩
  obtain ⟨path, fault⟩ := h.fault_iff.2 some
  cases h.ends with
  | @fault first last ends none failed' =>
    rw [ends, List.filterMap_append] at split
    obtain ⟨rfl, rfl⟩ := eq_last_of_failed (answered_of_noFault none) failed split
    have logged : (Mark.asked q).events warn = [.callbackFault q.path q.key] := by
      rw [Mark.events, if_pos failed]
    refine ⟨rfl, rfl, ?_⟩
    rw [ends, List.flatMap_append, errorsOf_append, errorsOf_of_noFault none, List.flatMap_singleton,
      logged]
    rfl
  | data data =>
    cases fault
    cases data
  | ok => cases fault

/-- No run ends in an unrecognized rule name: names are read before there is a schema. -/
theorem not_unrecognized (h : Told warn gains marks j run) (name : String) :
    run.1 ≠ .error (.unrecognized name) := by
  obtain ⟨r, j'⟩ := run
  rintro ⟨⟩
  cases h.ends with
  | data data => cases data

end Told

namespace Schema

/-- The callbacks asked are those of the schema, at any depth. -/
theorem callback_of_question {s : Schema} {options : Options} {input : Term} {j : Journal} :
    ∀ q ∈ s.questions options input j, Rule.Within (.callback q.callback) (.nested s) := by
  have each := each_trace (s := s) Mark.asks_noted (fun q within => Mark.asks_asked within)
    (fun _ _ _ => Mark.asks_giveUp) options input
  exact Mark.forall_question (each j)

/-- **A callback fault is never swallowed and never invented.** Whatever the schema, the options and the
input: a call ends with a fault if and only if some callback that it asked failed. The callback that
failed is the last one asked, the fault has the path of its field, and the one error among the new events
is about it. Where none fails no error is logged. The callbacks asked are some of the schema's, at any
depth, and account for all that the call creates; and no call ends with a rule's name that is none. -/
theorem fault_of_last_question (s : Schema) (options : Options) (input : Term) (j : Journal) :
    let asked := s.questions options input j
    let call := s.parse options input j
    ∃ new, call.2.events = j.events ++ new ∧
      (∀ q ∈ asked, Rule.Within (.callback q.callback) (.nested s)) ∧
      Question.Chain j.session asked call.2.session ∧
      ((∃ path, call.1 = .error (.callbackFault path)) ↔ ∃ q ∈ asked, q.failed = true) ∧
      (∀ before q after, asked = before ++ q :: after → q.failed = true →
        after = [] ∧ call.1 = .error (.callbackFault q.path) ∧
          errorsOf new = [.callbackFault q.path q.key]) ∧
      ((∀ q ∈ asked, q.failed = false) → errorsOf new = []) ∧
      ∀ name, call.1 ≠ .error (.unrecognized name) := by
  intro asked call
  have told := s.told_parse options input j
  refine ⟨_, told.events, callback_of_question, told.sessions, told.fault_iff, ?_, ?_,
    told.not_unrecognized⟩
  · intro before q after split failed
    exact told.last_of_failed split failed
  · intro answered
    exact errorsOf_of_noFault (noFault_of_answered answered) _

/-- An alternative whose callback fails is not given up for the next one, which would take the item. -/
example :
    let fails : Rule := .callback (.value fun _ => pure none)
    let ports : Schema := ⟨[(.text "ports", .list .ordered (.oneOf [fails, .type .port]))], [], none⟩
    (ports.parse .default (.map [(.text "ports", .list [.integer 80])]) default).1.map Output.accepted
      = .error (.callbackFault ⟨"ports"⟩) := rfl

end Schema

end Conform
