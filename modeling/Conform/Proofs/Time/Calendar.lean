import Conform.Time.Calendar

/-!
# Days and dates

The date of a day number is one that the calendar has, and it has this day number. Both directions go
through the day's place in an era: centuries, cycles of four years and single years fill an era of 400
years without gaps, and a year that starts in March is followed by its leap day.
-/

namespace Conform.Time

namespace Date

/-! ## Eras -/

/-- A day of an era: the century, the cycle of four years in it, the year of the cycle, and the day of a
year that starts in March. -/
structure InEra (dayOfEra century cycle year day : Int) : Prop where
  centuries : 0 ≤ century ∧ century ≤ 3
  cycles : 0 ≤ cycle ∧ cycle ≤ 24
  years : 0 ≤ year ∧ year ≤ 3
  days : 0 ≤ day ∧ day ≤ 365
  /-- A leap day ends a cycle, but of the cycles that end a century only the last. -/
  leap : day = 365 → year = 3 ∧ (cycle = 24 → century = 3)
  sum : dayOfEra = 36524 * century + 1461 * cycle + 365 * year + day

theorem exists_inEra {d : Int} (low : 0 ≤ d) (high : d < 146097) :
    ∃ century cycle year day, InEra d century cycle year day := by
  obtain ⟨c, hc⟩ : ∃ c, c = if d = 146096 then 3 else d / 36524 := ⟨_, rfl⟩
  obtain ⟨q, hq⟩ : ∃ q, q = (d - 36524 * c) / 1461 := ⟨_, rfl⟩
  obtain ⟨y, hy⟩ : ∃ y, y = if d - 36524 * c - 1461 * q = 1460 then 3
      else (d - 36524 * c - 1461 * q) / 365 := ⟨_, rfl⟩
  refine ⟨c, q, y, d - 36524 * c - 1461 * q - 365 * y, ⟨?_, ?_, ?_, ?_, ?_, ?_⟩⟩
  all_goals omega

section InEra

variable {d century cycle year day era : Int}

/-- The days that years have besides 365 are taken off, and whole years are left. -/
theorem yearOfEra_of_inEra (h : InEra d century cycle year day) :
    (d - d / 1460 + d / 36524 - d / 146096) / 365 = 100 * century + 4 * cycle + year := by
  obtain ⟨hcentury, hcycle, hyear, hday, leap, sum⟩ := h
  have centuries : d / 36524 - d / 146096 = century := by
    have early : d < 36524 * (century + 1) ∨ century = 3 ∧ d = 146096 := by omega
    rcases early with early | ⟨rfl, rfl⟩
    · have whole : d / 146096 = 0 := by omega
      have begun : d / 36524 = century := by omega
      omega
    · rfl
  have leapDays : 0 ≤ day - (24 * century + cycle + 365 * year + day) / 1460 ∧
      day - (24 * century + cycle + 365 * year + day) / 1460 < 365 := by
    omega
  omega

/-- Taking the days of the whole years off leaves the day of the year, leap days counted. -/
theorem dayOfYear_of_inEra (h : InEra d century cycle year day) :
    d - (365 * (100 * century + 4 * cycle + year) + (100 * century + 4 * cycle + year) / 4
      - (100 * century + 4 * cycle + year) / 100) = day := by
  obtain ⟨hcentury, hcycle, hyear, -, -, sum⟩ := h
  have cycles : (100 * century + 4 * cycle + year) / 4 = 25 * century + cycle := by omega
  have centuries : (100 * century + 4 * cycle + year) / 100 = century := by omega
  omega

/-- The leap day of a year that starts in March is in the calendar year after it. -/
theorem isLeapYear_of_inEra (h : InEra d century cycle 3 365) :
    isLeapYear (100 * century + 4 * cycle + 3 + era * 400 + 1) = true := by
  have last := (h.leap rfl).2
  have hcycle := h.cycles
  simp only [isLeapYear, Bool.and_eq_true, Bool.or_eq_true, beq_iff_eq, bne_iff_ne]
  omega

/-! ## Years that start in March -/

/-- The date of a day of a year that starts in March. -/
def ofYearDay (year day : Int) : Date :=
  let month := (5 * day + 2) / 153
  let dayOfMonth := day - (153 * month + 2) / 5 + 1
  if month < 10 then ⟨year, (month + 3).toNat, dayOfMonth.toNat⟩
  else ⟨year + 1, (month - 9).toNat, dayOfMonth.toNat⟩

/-- The date of a day of an era has that day's number. -/
theorem dayNumber_ofYearDay (h : InEra d century cycle year day) :
    (ofYearDay (100 * century + 4 * cycle + year + era * 400) day).dayNumber
      = d + era * 146097 - 719468 := by
  obtain ⟨hcentury, hcycle, hyear, hday, -, sum⟩ := h
  unfold ofYearDay dayNumber
  dsimp only
  split
  · dsimp only
    omega
  · dsimp only
    omega

/-- The months from March to December have room for the days up to the next month. -/
theorem le_daysInMonth (year : Int) {month day : Int} (low : 0 ≤ month) (high : month < 10)
    (room : day ≤ (153 * (month + 1) + 2) / 5 - (153 * month + 2) / 5) :
    day.toNat ≤ daysInMonth year (month + 3).toNat := by
  have months : month = 0 ∨ month = 1 ∨ month = 2 ∨ month = 3 ∨ month = 4 ∨ month = 5 ∨ month = 6 ∨
      month = 7 ∨ month = 8 ∨ month = 9 := by
    omega
  rcases months with rfl | rfl | rfl | rfl | rfl | rfl | rfl | rfl | rfl | rfl <;>
    simp [daysInMonth] <;> omega

/-- It is a real date: the month has that many days, in leap years too. -/
theorem isReal_ofYearDay (h : InEra d century cycle year day) :
    (ofYearDay (100 * century + 4 * cycle + year + era * 400) day).isReal = true := by
  obtain ⟨first, last⟩ := h.days
  obtain ⟨month, begun⟩ : ∃ month, (5 * day + 2) / 153 = month := ⟨_, rfl⟩
  simp only [isReal, Bool.and_eq_true, decide_eq_true_eq]
  unfold ofYearDay
  dsimp only
  rw [begun]
  split
  · rename_i early
    dsimp only
    refine ⟨⟨⟨?_, ?_⟩, ?_⟩, le_daysInMonth _ ?_ early ?_⟩ <;> omega
  · rename_i late
    have months : month = 10 ∨ month = 11 := by omega
    rcases months with rfl | rfl
    · simp [daysInMonth]
      omega
    · by_cases leapDay : day = 365
      · subst leapDay
        obtain rfl := (h.leap rfl).1
        simp [daysInMonth, isLeapYear_of_inEra h]
      · have short : 28 ≤ daysInMonth (100 * century + 4 * cycle + year + era * 400 + 1) 2 := by
          unfold daysInMonth
          split <;> split <;> omega
        dsimp only
        refine ⟨⟨by decide, ?_⟩, Nat.le_trans ?_ short⟩ <;> omega

end InEra

/-! ## Day numbers -/

/-- Every day number has its place in an era, and the date of that place. -/
theorem exists_ofDayNumber (n : Int) : ∃ era century cycle year day,
    InEra (n + 719468 - era * 146097) century cycle year day ∧
      ofDayNumber n = ofYearDay (100 * century + 4 * cycle + year + era * 400) day := by
  have low : 0 ≤ n + 719468 - (n + 719468) / 146097 * 146097 := by omega
  have high : n + 719468 - (n + 719468) / 146097 * 146097 < 146097 := by omega
  obtain ⟨century, cycle, year, day, place⟩ := exists_inEra low high
  refine ⟨_, century, cycle, year, day, place, ?_⟩
  unfold ofDayNumber
  dsimp only
  rw [yearOfEra_of_inEra place, dayOfYear_of_inEra place]
  rfl

/-- **A day's date has the number of the day.** -/
theorem dayNumber_ofDayNumber (n : Int) : (ofDayNumber n).dayNumber = n := by
  obtain ⟨era, century, cycle, year, day, place, date⟩ := exists_ofDayNumber n
  rw [date, dayNumber_ofYearDay place]
  omega

/-- **A day's date is one that the calendar has.** -/
theorem isReal_ofDayNumber (n : Int) : (ofDayNumber n).isReal = true := by
  obtain ⟨era, century, cycle, year, day, place, date⟩ := exists_ofDayNumber n
  rw [date, isReal_ofYearDay place]

end Date

end Conform.Time
