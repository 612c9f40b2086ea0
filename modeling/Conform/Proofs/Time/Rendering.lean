import Conform.Proofs.Time.Obtained
import Conform.Proofs.Time.Reading

/-!
# Rendered timestamps

The text of a timestamp has the digits of its precision, which are all that its nanoseconds have. Read again
at that precision it is the timestamp, if its year has four digits; the years that are written with a sign are
refused. Counts lead to such years, and so do offsets at the ends of the others.
-/

namespace Conform.Time

open Conform.Text

namespace Instant

/-- No blanks stand around a printed instant. -/
theorem trimmed_text (f : Fraction) (t : Instant) : Trimmed (t.text f).toList where
  first c hc := by
    rw [toList_text, List.head?_append] at hc
    by_cases year : IsFourDigits t.date.year
    · obtain ⟨d, cs, text, digit⟩ := exists_padded 4 t.date.year.toNat
      rw [yearText_of_fourDigits year, text] at hc
      obtain rfl := Option.some.inj hc
      exact not_blank_of_isDigit digit
    · rw [yearText_of_not_fourDigits year] at hc
      obtain rfl := Option.some.inj hc
      split <;> decide
  last c hc := by
    obtain ⟨body, text⟩ : ∃ body, (t.text f).toList = body ++ ['Z'] := ⟨_, String.toList_append⟩
    rw [text, List.getLast?_concat] at hc
    obtain rfl := Option.some.inj hc
    decide

/-- Nanoseconds of whole units are so within the second that is shown, leap second or not. -/
theorem dvd_clockNanos {t : Instant} {p : Precision} (h : p.nanos ∣ t.nanos) : p.nanos ∣ t.clockNanos := by
  unfold clockNanos
  split
  · exact Nat.dvd_sub h p.nanos_dvd_second
  · exact h

/-- The digits of a precision are those that whole units have. -/
theorem keeps_digits {t : Instant} {p : Precision} (h : p.nanos ∣ t.nanos) :
    (Fraction.digits p.digits).Keeps t.clockNanos := by
  have digits : p.digits ≤ 9 := by cases p <;> decide
  have unit : Nat.pow 10 (9 - p.digits) = p.nanos := by cases p <;> rfl
  exact ⟨digits, unit ▸ dvd_clockNanos h⟩

end Instant

namespace Timestamp

variable {p : Precision} {t : Timestamp}

/-- A timestamp is what is read of its text, unless that has a sign before its year. -/
theorem ofText_text (h : Whole p t) : ofText p t.text =
    if Instant.IsFourDigits t.instant.date.year then .ok t else .error (.text .invalid) := by
  have trimmed : trim t.text.toList = t.text.toList := trim_of_trimmed (Instant.trimmed_text _ _)
  split
  · rename_i year
    have keeps : (Instant.Fraction.digits t.precision.digits).Keeps t.instant.clockNanos :=
      h.precision ▸ Instant.keeps_digits h.units
    refine ofText_eq_ok_iff.2 ⟨t.instant, ?_, ?_⟩
    · rw [trimmed]
      exact Instant.read_text h.proper keeps year
    · rw [Precision.wholeUnits_of_dvd h.units, ← h.precision]
  · rename_i year
    apply ofText_of_error
    rw [trimmed]
    exact Instant.read_text_of_not_fourDigits _ year

end Timestamp

end Conform.Time
