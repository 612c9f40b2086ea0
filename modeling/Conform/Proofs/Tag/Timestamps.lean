import Conform.Proofs.Attempt
import Conform.Proofs.Tag.Canonical
import Conform.Proofs.Time.Record
import Conform.Proofs.Time.Rendering
import Conform.Term.Json

/-!
# Timestamps of a tag

What the tag of timestamps accepts is made of a text or a count, or it is a timestamp of the precision
already, which passes as it is. What is made is of whole units, and it is found again in what JSON leaves of
it, as long as the year has four digits. A timestamp of a record passes with all its nanoseconds.
-/

namespace Conform.Tag

open Conform.Time
open Conform.Time.Timestamp (Obtained)

variable {p : Precision} {symbols : SymbolTable} {raw v : Term}

/-- A timestamp is `Obtained` from a text or a count, or it was there before. -/
theorem exists_timestamp (h : (Tag.timestamp p).validate symbols raw = .ok v) :
    ∃ t, v = .timestamp t ∧ (Obtained p t ∨ raw = .timestamp t ∧ t.precision = p) := by
  obtain ⟨t, rfl, given | ⟨n, -, counted⟩ | ⟨s, -, read⟩⟩ := exists_of_timestamp h
  · exact ⟨t, rfl, .inr given⟩
  · exact ⟨t, rfl, .inl (.ofCount n (Attempt.mapError_eq_ok.1 counted))⟩
  · exact ⟨t, rfl, .inl (.ofText s (Attempt.mapError_eq_ok.1 read))⟩

/-- A timestamp of the tag's precision passes as it is. -/
theorem validate_timestamp {t : Timestamp} (h : t.precision = p) :
    (Tag.timestamp p).validate symbols (.timestamp t) = .ok (.timestamp t) :=
  if_pos h

theorem validate_text (s : String) : (Tag.timestamp p).validate symbols (.string s)
    = ((readTimestamp p s).map .timestamp).mapError .value := rfl

theorem validate_count (n : Int64) : (Tag.timestamp p).validate symbols (.integer n)
    = ((countTimestamp p n).map .timestamp).mapError .value := rfl

/-- What JSON leaves of a timestamp is its text. -/
theorem ofJson_toJson_timestamp (t : Timestamp) (session : Session) :
    (Term.ofJson (Term.timestamp t).toJson session).1 = .string t.text := rfl

/-- A text with a sign before its year is refused, any other is read as the timestamp it is of. -/
theorem validate_text_of_timestamp {t : Timestamp} (h : t.Whole p) :
    (Tag.timestamp p).validate symbols (.string t.text) =
      if Instant.IsFourDigits t.instant.date.year then .ok (.timestamp t)
      else .error (.value (.timestamp t.text (.text .invalid))) := by
  rw [validate_text, readTimestamp, Timestamp.ofText_text h]
  split <;> rfl

/-- **Rendered timestamps are read back, as long as their year has four digits.** That is so of every timestamp
of a text or a count, at each precision, and of every value of the tag, after a dump to JSON as well. The text
of any other has a sign before the year, and is refused for it. -/
theorem rendered_timestamps_read_back (p : Precision) :
    (∀ t, Obtained p t → Timestamp.ofText p t.text =
      if Instant.IsFourDigits t.instant.date.year then .ok t else .error (.text .invalid)) ∧
    ∀ symbols raw v, (Tag.timestamp p).validate symbols raw = .ok v →
      (∀ t, raw = .timestamp t → Obtained t.precision t) →
      ∃ t, v = .timestamp t ∧ Obtained p t ∧ ∀ (later : SymbolTable) (session : Session),
        (Tag.timestamp p).validate later (Term.ofJson v.toJson session).1 =
          if Instant.IsFourDigits t.instant.date.year then .ok v
          else .error (.value (.timestamp t.text (.text .invalid))) := by
  refine ⟨fun t obtained => Timestamp.ofText_text obtained.whole, ?_⟩
  intro symbols raw v valid given
  obtain ⟨t, rfl, made⟩ := exists_timestamp valid
  have obtained : Obtained p t := by
    rcases made with obtained | ⟨here, rfl⟩
    · exact obtained
    · exact given t here
  refine ⟨t, rfl, obtained, fun later session => ?_⟩
  rw [ofJson_toJson_timestamp, validate_text_of_timestamp obtained.whole]

/-- The last second of the year 9999, given to the tag as a count, and the next, as the text of an offset. -/
theorem rendered_timestamps_read_back_around_10000 : ∃ last next : Timestamp,
    Timestamp.ofCount .second 253402300799 = .ok last ∧
    Timestamp.ofText .second "9999-12-31T23:00:00-01:00" = .ok next ∧
    Timestamp.ofText .second last.text = .ok last ∧
    Timestamp.ofText .second next.text = .error (.text .invalid) ∧
    ∀ (later : SymbolTable) (session : Session), (Tag.timestamp .second).validate later
      (Term.ofJson (Term.timestamp last).toJson session).1 = .ok (.timestamp last) := by
  have last : Timestamp.ofCount .second 253402300799 = .ok ⟨⟨253402300799, 0⟩, .second⟩ :=
    Timestamp.ofCount_eq_ok_iff.2 ⟨by decide +kernel, rfl⟩
  have next : Timestamp.ofText .second "9999-12-31T23:00:00-01:00"
      = .ok ⟨⟨253402300800, 0⟩, .second⟩ := by rfl
  have lastYear : Instant.IsFourDigits (Instant.date ⟨253402300799, 0⟩).year := by decide +kernel
  have nextYear : ¬Instant.IsFourDigits (Instant.date ⟨253402300800, 0⟩).year := by decide +kernel
  obtain ⟨texts, values⟩ := rendered_timestamps_read_back .second
  have readLast := texts _ (.ofCount _ last)
  have readNext := texts _ (.ofText _ next)
  rw [if_pos lastYear] at readLast
  rw [if_neg nextYear] at readNext
  have valid : (Tag.timestamp .second).validate .empty (.integer 253402300799)
      = .ok (.timestamp ⟨⟨253402300799, 0⟩, .second⟩) := by
    rw [validate_count, countTimestamp, last]
    rfl
  obtain ⟨t, same, -, again⟩ := values .empty _ _ valid (by simp)
  obtain rfl := Term.timestamp.inj same
  rw [if_pos lastYear] at again
  exact ⟨_, _, last, next, readLast, readNext, again⟩

/-- The first second of the year 10000 is not read back. -/
theorem rendered_year_10000_refused : ∃ t : Timestamp,
    Timestamp.ofCount .second 253402300800 = .ok t ∧ t.text = "+10000-01-01T00:00:00Z" ∧
    Timestamp.ofText .second t.text = .error (.text .invalid) :=
  ⟨⟨⟨253402300800, 0⟩, .second⟩, Timestamp.ofCount_eq_ok_iff.2 ⟨by decide +kernel, rfl⟩, by decide +kernel,
    by rfl⟩

/-- **Timestamps are of whole units, unless they come from a record.** Those of texts and counts are. A record
can give every instant, whatever its unit is, and the tag of that unit passes it as it is: such a value, given
to the tag, is the only one it accepts that need not be of whole units. -/
theorem whole_unless_recorded (p : Precision) :
    (∀ t, Obtained p t → t.precision = p ∧ p.nanos ∣ t.instant.nanos) ∧
    (∀ t, (∃ s, Timestamp.ofJsonText? s = some t) ↔ t.instant.Proper) ∧
    (∀ symbols raw v, (Tag.timestamp p).validate symbols raw = .ok v →
      ∃ t, v = .timestamp t ∧ t.precision = p ∧ (p.nanos ∣ t.instant.nanos ∨ raw = .timestamp t)) ∧
    ∀ symbols t, t.precision = p →
      (Tag.timestamp p).validate symbols (.timestamp t) = .ok (.timestamp t) := by
  refine ⟨fun t obtained => ⟨obtained.whole.precision, obtained.whole.units⟩,
    fun t => Timestamp.exists_ofJsonText_iff, ?_, fun _ _ => validate_timestamp⟩
  intro symbols raw v valid
  obtain ⟨t, rfl, made⟩ := exists_timestamp valid
  rcases made with obtained | ⟨here, precision⟩
  · exact ⟨t, rfl, obtained.whole.precision, .inl obtained.whole.units⟩
  · exact ⟨t, rfl, precision, .inr here⟩

/-- The last nanosecond of a leap second: cut down if it comes from a text, not if it comes from a record. -/
theorem whole_unless_recorded_in_leap_second : ∃ cut recorded : Timestamp,
    Timestamp.ofText .millisecond "2016-12-31T23:59:60.999999999Z" = .ok cut ∧
    Precision.millisecond.nanos ∣ cut.instant.nanos ∧
    recorded = ⟨⟨1483228799, 1999999999⟩, .millisecond⟩ ∧
    (∃ s, Timestamp.ofJsonText? s = some recorded) ∧
    ∃ v, (Tag.timestamp .millisecond).validate .empty (.timestamp recorded) = .ok v ∧
      ∃ t, v = .timestamp t ∧ t.precision = .millisecond ∧
        (Precision.millisecond.nanos ∣ t.instant.nanos ∨ Term.timestamp recorded = .timestamp t) := by
  have cut : Timestamp.ofText .millisecond "2016-12-31T23:59:60.999999999Z"
      = .ok ⟨⟨1483228799, 1999000000⟩, .millisecond⟩ :=
    Timestamp.ofText_eq_ok_iff.2 ⟨⟨1483228799, 1999999999⟩, by rfl, by decide⟩
  obtain ⟨texts, records, values, passes⟩ := whole_unless_recorded .millisecond
  have passed := passes .empty ⟨⟨1483228799, 1999999999⟩, .millisecond⟩ rfl
  exact ⟨_, _, cut, (texts _ (.ofText _ cut)).2, rfl, (records _).2 ⟨by decide, by decide, by decide⟩,
    _, passed, values _ _ _ passed⟩

/-- A record of a second with nanoseconds, which the tag of seconds accepts. -/
theorem recorded_second_has_nanoseconds : ∃ t : Timestamp,
    Timestamp.ofJsonText?
      "\x7b\"instant\":\"2026-01-15T12:00:00.987654321Z\",\"unit\":\"second\"\x7d" = some t ∧
    t = ⟨⟨1768478400, 987654321⟩, .second⟩ ∧ ¬Precision.second.nanos ∣ t.instant.nanos ∧
    ∀ symbols, (Tag.timestamp .second).validate symbols (.timestamp t) = .ok (.timestamp t) :=
  ⟨⟨⟨1768478400, 987654321⟩, .second⟩, by decide +kernel, rfl, by decide, fun _ => rfl⟩

end Conform.Tag
