import Conform.Proofs.Level.EachMark

/-!
# Warnings and the report

A key without a rule is warned of when it is met, and reported when the level in which it was met is
accepted. In between a choice may give up the level for another alternative. The warning is out by then,
but the key leaves the report: it may even be one that the other alternative takes. So the keys warned of
are those reported and, in between, those of the alternatives that were given up.
-/

namespace Conform

/-- The key that an event warns of. -/
def Event.warned? : Event → Option Path
  | .unknownKey path => some path
  | .callbackFault _ _ | .stored _ _ | .loading _ | .loaded _ _ _ _ _ => none

/-- A rule that is no choice. -/
def Rule.NoChoice : Rule → Prop
  | .oneOf _ => False
  | _ => True

variable {marks : List Mark}

/-- Each key that a run meets is warned of, and nothing else is. -/
theorem warned_of_marks (marks : List Mark) :
    (marks.flatMap (Mark.events true)).filterMap Event.warned? = marks.filterMap Mark.noted? := by
  induction marks with
  | nil => rfl
  | cons m ms ih =>
    rw [List.flatMap_cons, List.filterMap_append, ih]
    cases m with
    | noted path => rfl
    | asked q =>
      rw [Mark.events]
      split <;> rfl

/-- A path kept as unknown was noted when it was met, and in that order. -/
theorem kept_sublist_noted (marks : List Mark) :
    (marks.filterMap Mark.kept?).Sublist (marks.filterMap Mark.noted?) := by
  induction marks with
  | nil => exact .slnil
  | cons m ms ih =>
    cases m with
    | noted path kept =>
      cases kept with
      | false => exact .cons path ih
      | true => exact .cons_cons path ih
    | asked => exact ih

/-- All keys that were met are kept if and only if none of them was given up. -/
theorem kept_eq_noted_iff :
    marks.filterMap Mark.kept? = marks.filterMap Mark.noted? ↔ ∀ path, .noted path false ∉ marks := by
  induction marks with
  | nil => exact ⟨fun _ _ => List.not_mem_nil, fun _ => rfl⟩
  | cons m ms ih =>
    cases m with
    | noted path kept =>
      cases kept with
      | true =>
        have here : (∀ p, .noted p false ∉ Mark.noted path true :: ms) ↔ ∀ p, .noted p false ∉ ms := by
          simp
        rw [here, ← ih]
        exact List.cons_inj_right path
      | false =>
        constructor
        · -- The key given up is one more than those kept after it.
          intro same
          have longer := congrArg List.length same
          have fewer := (kept_sublist_noted ms).length_le
          simp only [List.filterMap_cons, Mark.kept?, Mark.noted?, List.length_cons] at longer
          omega
        · intro none
          exact (none path List.mem_cons_self).elim
    | asked q =>
      have here : (∀ p, .noted p false ∉ Mark.asked q :: ms) ↔ ∀ p, .noted p false ∉ ms := by
        simp
      rw [here, ← ih]
      exact Iff.rfl

namespace Schema

/-- Without choices nothing is given up. -/
theorem not_givenUp_of_noChoice {s : Schema} (h : (Rule.nested s).Every Rule.NoChoice)
    (options : Options) (input : Term) (j : Journal) :
    ∀ path, .noted path false ∉ s.trace options input j := by
  intro path given
  have each := each_trace (s := s) (P := fun m => ∀ path, m ≠ .noted path false) nofun (fun _ _ => nofun)
    (fun rules within => (h _ within).elim) options input
  exact each j _ given path rfl

/-- **Warnings match the report up to the alternatives that were given up.** Where unknown keys are
warned of, a call that succeeds has warned of every key without a rule that it met, each once and in
order, and reports those of them that were not met in an alternative that it gave up. So the two are
equal if and only if no such key was met, and always under a schema without choices. -/
theorem report_within_warnings (s : Schema) {options : Options} (warn : options.warnUnknown = true)
    {input : Term} {j : Journal} {out : Output} (h : (s.parse options input j).1 = .ok out) :
    let trace := s.trace options input j
    ∃ new, (s.parse options input j).2.events = j.events ++ new ∧
      new.filterMap Event.warned? = trace.filterMap Mark.noted? ∧
      out.unknown = trace.filterMap Mark.kept? ∧
      out.unknown.Sublist (new.filterMap Event.warned?) ∧
      (out.unknown = new.filterMap Event.warned? ↔ ∀ path, .noted path false ∉ trace) ∧
      ((Rule.nested s).Every Rule.NoChoice → out.unknown = new.filterMap Event.warned?) := by
  intro trace
  have told := s.told_parse options input j
  rw [warn] at told
  have kept : out.unknown = trace.filterMap Mark.kept? := told.kept out h
  refine ⟨_, told.events, ?_⟩
  rw [warned_of_marks, kept]
  refine ⟨rfl, rfl, kept_sublist_noted _, kept_eq_noted_iff, ?_⟩
  intro noChoice
  exact kept_eq_noted_iff.2 (not_givenUp_of_noChoice noChoice options input j)

/-- A service that is reached by a path or by host and port. -/
def reached : Schema :=
  ⟨[(.text "endpoint", .oneOf [
    .nested ⟨[(.text "path", .type .string)], [], some [.text "path"]⟩,
    .nested ⟨[(.text "host", .type .string), (.text "port", .type .port)], [], none⟩])], [], none⟩

/-- The endpoint has a host and one key too many. Both its keys are warned of on the way through the
alternative that asks for a path, and the one too many again in the alternative that takes the rest. -/
theorem report_within_warnings_reached :
    let options : Options := ⟨"", true⟩
    let given : Term := .map [(.text "endpoint", .map [(.text "host", .string "a"),
      (.text "rank", .integer 1)])]
    options.warnUnknown = true ∧
      ∃ out new, (reached.parse options given default).1 = .ok out ∧
        (reached.parse options given default).2.events = new ∧
        out.unknown = [⟨"endpoint.rank"⟩] ∧
        new.filterMap Event.warned? = [⟨"endpoint.host"⟩, ⟨"endpoint.rank"⟩, ⟨"endpoint.rank"⟩] ∧
        out.unknown.Sublist (new.filterMap Event.warned?) := by
  intro options given
  have parsed : ∃ out, (reached.parse options given default).1 = .ok out ∧
      out.unknown = [⟨"endpoint.rank"⟩] := ⟨_, rfl, rfl⟩
  obtain ⟨out, ok, unknown⟩ := parsed
  obtain ⟨new, events, warned, -, sublist, -⟩ := report_within_warnings reached rfl ok
  exact ⟨rfl, out, new, ok, events, unknown, warned, sublist⟩

/-- A host and a port are all that is given, and both are taken. But both are warned of. -/
theorem warned_of_taken_keys :
    let options : Options := ⟨"", true⟩
    let endpoint : Term := .map [(.text "host", .string "a"), (.text "port", .integer 80)]
    let call := reached.parse options (.map [(.text "endpoint", endpoint)]) default
    ∃ out, call.1 = .ok out ∧ out.accepted = [(.text "endpoint", endpoint)] ∧
      out.unknown = [] ∧
      call.2.events = [.unknownKey ⟨"endpoint.host"⟩, .unknownKey ⟨"endpoint.port"⟩] ∧
      call.2.events.filterMap Event.warned? ≠ out.unknown :=
  ⟨_, rfl, rfl, rfl, rfl, nofun⟩

end Schema

end Conform
