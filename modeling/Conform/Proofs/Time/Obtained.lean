import Conform.Proofs.Time.Truncation

/-!
# Timestamps of texts and counts

What every timestamp has that comes from a text or a count: the precision asked for, an instant with a date
and a time, and nanoseconds of whole units. A leap second is left one by truncation, for what makes it one is
a second.
-/

namespace Conform.Time

open Conform.Text

variable {p : Precision} {t : Timestamp}

namespace Timestamp

/-- A timestamp that a text or a count gives at a precision. -/
inductive Obtained (p : Precision) (t : Timestamp) : Prop where
  | ofText (s : String) (h : Timestamp.ofText p s = .ok t)
  | ofCount (n : Int64) (h : Timestamp.ofCount p n = .ok t)

/-- A timestamp of whole units. -/
structure Whole (p : Precision) (t : Timestamp) : Prop where
  precision : t.precision = p
  proper : t.instant.Proper
  units : p.nanos ∣ t.instant.nanos

/-- A text gives the instant it names, without what is finer than a unit. -/
theorem ofText_eq_ok_iff {s : String} : ofText p s = .ok t ↔
    ∃ i, Instant.read (trim s.toList) = .ok i ∧ t = ⟨⟨i.seconds, p.wholeUnits i.nanos⟩, p⟩ := by
  unfold ofText
  constructor
  · intro h
    split at h
    · rename_i i read
      cases h
      exact ⟨i, read, by rw [truncate_eq (Instant.kept_of_read read)]⟩
    · cases h
  · rintro ⟨i, read, rfl⟩
    rw [read]
    dsimp only
    rw [truncate_eq (Instant.kept_of_read read)]

/-- A text that is no RFC 3339 time is refused for the reader's reason. -/
theorem ofText_of_error {s : String} {fault : TextFault}
    (h : Instant.read (trim s.toList) = .error fault) : ofText p s = .error (.text fault) := by
  rw [ofText, h]

theorem proper_wholeUnits {i : Instant} (h : i.Proper) (p : Precision) :
    Instant.Proper ⟨i.seconds, p.wholeUnits i.nanos⟩ where
  range := h.range
  nanos := Nat.lt_of_le_of_lt (p.wholeUnits_le i.nanos) h.nanos
  leap late := h.leap (Nat.le_trans late (p.wholeUnits_le i.nanos))

theorem whole_of_ofText {s : String} (h : ofText p s = .ok t) : Whole p t := by
  obtain ⟨i, read, rfl⟩ := ofText_eq_ok_iff.1 h
  exact ⟨rfl, proper_wholeUnits (Instant.proper_of_read read) p, p.dvd_wholeUnits i.nanos⟩

/-- A count gives no leap second. -/
theorem early_of_ofCount {n : Int64} (h : ofCount p n = .ok t) : t.instant.nanos < 1000000000 :=
  nanos_of_count (ofCount_eq_ok_iff.1 h).1

theorem whole_of_ofCount {n : Int64} (h : ofCount p n = .ok t) : Whole p t := by
  have early := early_of_ofCount h
  obtain ⟨found, precision⟩ := ofCount_eq_ok_iff.1 h
  obtain ⟨parts, range⟩ := instantOfCount_eq found
  refine ⟨precision, ⟨?_, by omega, by omega⟩, ?_⟩
  · rw [parts]
    exact range
  · rw [parts]
    exact Nat.dvd_mul_left _ _

theorem Obtained.whole (h : Obtained p t) : Whole p t := by
  cases h with
  | ofText s h => exact whole_of_ofText h
  | ofCount n h => exact whole_of_ofCount h

end Timestamp

end Conform.Time
