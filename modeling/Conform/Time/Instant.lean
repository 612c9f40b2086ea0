import Conform.Text.Blank
import Conform.Text.Digits
import Conform.Text.Utf8
import Conform.Time.Calendar

/-!
# Instants

A point on the UTC time line: whole seconds from the start of 1970 and nanoseconds on top of them.
A leap second is written as the sixtieth second of a minute; it has the whole seconds of the
fifty-ninth and nanoseconds from a thousand million on. Reading is RFC 3339: date, time, offset, all
of them complete; the causes of a refusal are told apart.

These are the instants of `DateTime`, with `parse_from_rfc3339`, the lenient `from_str` that records
are read with, and `to_rfc3339_opts`.
-/

namespace Conform.Time

open Conform.Text

/-- Whole seconds from the start of 1970 and the nanoseconds after them. -/
structure Instant where
  seconds : Int
  nanos : Nat
deriving DecidableEq

/-- Why a text is no RFC 3339 time. -/
inductive TextFault where
  /-- A number that no date, time or offset has. -/
  | outOfRange
  /-- A character that cannot stand where it does. -/
  | invalid
  /-- The text ends too soon. -/
  | tooShort
  /-- The text goes on after the offset. -/
  | trailing
deriving DecidableEq

def TextFault.message : TextFault → String
  | .outOfRange => "input is out of range"
  | .invalid => "input contains invalid characters"
  | .tooShort => "premature end of input"
  | .trailing => "trailing input"

namespace Instant

def order (a b : Instant) : Ordering :=
  (compare a.seconds b.seconds).then (compare a.nanos b.nanos)

instance : Ord Instant := ⟨order⟩

def firstSecond : Int := -8334601228800

def lastSecond : Int := 8210266876799

/-- The years that dates are kept for. -/
def inRange (seconds : Int) : Bool :=
  decide (firstSecond ≤ seconds) && decide (seconds ≤ lastSecond)

/-- The instants of those years. The last of them is in the last second; a leap second after it is out
of range. -/
def isKept (t : Instant) : Bool :=
  inRange t.seconds && (decide (t.seconds < lastSecond) || decide (t.nanos < 1000000000))

/-- The instant with other nanoseconds, if a second can have so many and the instant is kept:
`with_nanosecond`. -/
def withNanos? (t : Instant) (nanos : Nat) : Option Instant :=
  if nanos < 2000000000 ∧ isKept ⟨t.seconds, nanos⟩ then some ⟨t.seconds, nanos⟩ else none

/-! ## Printing -/

/-- How many digits of the second's fraction are written. -/
inductive Fraction where
  | digits (n : Nat)
  /-- None, three, six or nine: as few as lose nothing. -/
  | fewest

/-- The year with four digits, or with a sign and at least four digits outside of 0 to 9999. -/
def yearText (year : Int) : String :=
  if 0 ≤ year ∧ year ≤ 9999 then padded 4 year.toNat
  else (if year < 0 then "-" else "+") ++ padded 4 year.natAbs

/-- The fraction of a second, given in nanoseconds, with its point. -/
def fractionText (nanos : Nat) : Fraction → String
  | .digits 0 => ""
  | .digits n => "." ++ padded n (nanos / Nat.pow 10 (9 - n))
  | .fewest =>
    if nanos = 0 then ""
    else if nanos % 1000000 = 0 then "." ++ padded 3 (nanos / 1000000)
    else if nanos % 1000 = 0 then "." ++ padded 6 (nanos / 1000)
    else "." ++ padded 9 nanos

/-- The instant in UTC, as RFC 3339 writes it: `to_rfc3339_opts`. -/
def text (fraction : Fraction) (t : Instant) : String :=
  let date := Date.ofDayNumber (t.seconds / 86400)
  let time := (t.seconds % 86400).toNat
  let leap := decide (1000000000 ≤ t.nanos)
  let second := time % 60 + if leap then 1 else 0
  let nanos := if leap then t.nanos - 1000000000 else t.nanos
  yearText date.year ++ "-" ++ padded 2 date.month ++ "-" ++ padded 2 date.day ++ "T"
    ++ padded 2 (time / 3600) ++ ":" ++ padded 2 (time / 60 % 60) ++ ":" ++ padded 2 second
    ++ fractionText nanos fraction ++ "Z"

/-! ## Reading -/

/-- A number of at least `least` and at most `most` digits. A text too short for the least number
of digits, counted in bytes, is told apart from one that has other characters there. -/
def number (least most : Nat) (cs : List Char) : Except TextFault (Nat × List Char) :=
  if Utf8.length cs < least then .error .tooShort
  else
    let digits := (cs.take most).takeWhile isDigit
    if digits.length < least then .error .invalid
    else .ok (digits.foldl (fun n c => n * 10 + (c.toNat - '0'.toNat)) 0, cs.drop digits.length)

def expect (c : Char) : List Char → Except TextFault (List Char)
  | [] => .error .tooShort
  | d :: cs => if d = c then .ok cs else .error .invalid

def digits (count : Nat) (cs : List Char) : Except TextFault (Nat × List Char) :=
  let run := cs.take count
  if run.length = count ∧ run.all isDigit then
    .ok (run.foldl (fun n c => n * 10 + (c.toNat - '0'.toNat)) 0, cs.drop count)
  else .error .invalid

/-- The mark between date and time. -/
def expectTime : List Char → Except TextFault (List Char)
  | [] => .error .tooShort
  | c :: cs => if c = 'T' ∨ c = 't' ∨ c = ' ' then .ok cs else .error .invalid

/-- The fraction of a second in nanoseconds: the digits after the ninth are dropped. -/
def fraction (cs : List Char) : Except TextFault (Nat × List Char) := do
  let (n, rest) ← number 1 9 cs
  let scale := Nat.pow 10 (9 - ((cs.take 9).takeWhile isDigit).length)
  return (n * scale, rest.dropWhile isDigit)

def optionalFraction : List Char → Except TextFault (Nat × List Char)
  | '.' :: cs => fraction cs
  | cs => .ok (0, cs)

/-- The two digits of an offset's minutes. -/
def offsetMinutes (cs : List Char) : Except TextFault (Nat × List Char) :=
  if Utf8.length cs < 2 then .error .tooShort
  else match cs with
    | a :: b :: rest =>
      if !isDigit b || !isDigit a then .error .invalid
      else if '6' ≤ a then .error .outOfRange
      else .ok ((a.toNat - '0'.toNat) * 10 + (b.toNat - '0'.toNat), rest)
    | _ => .error .invalid

/-- The offset from UTC in seconds: `Z`, or a sign, hours and minutes. `separator` reads what stands
between hours and minutes. -/
def offset (separator : List Char → Except TextFault (List Char)) :
    List Char → Except TextFault (Int × List Char)
  | [] => .error .tooShort
  | c :: cs =>
    if c = 'Z' ∨ c = 'z' then .ok (0, cs)
    else if c = '+' ∨ c = '-' ∨ c = '\u2212' then do
      let (hours, cs) ← number 2 2 cs
      let cs ← separator cs
      let (minutes, cs) ← offsetMinutes cs
      let seconds : Int := hours * 3600 + minutes * 60
      return (if c = '+' then seconds else -seconds, cs)
    else .error .invalid

/-- A time of day in whole seconds, and the nanoseconds on top of them. -/
def timeOfDay (hour minute second nanos : Nat) : Except TextFault (Nat × Nat) :=
  if 24 ≤ hour ∨ 60 ≤ minute ∨ 61 ≤ second then .error .outOfRange
  else if second = 60 then .ok (hour * 3600 + minute * 60 + 59, nanos + 1000000000)
  else .ok (hour * 3600 + minute * 60 + second, nanos)

def calendarDate (date : Date) : Except TextFault Date :=
  if date.isReal then .ok date else .error .outOfRange

/-- The instant of a date and a time of day at an offset from UTC. -/
def ofLocal (date : Date) (time : Nat × Nat) (offset : Int) : Except TextFault Instant :=
  let seconds := date.dayNumber * 86400 + time.1 - offset
  if inRange seconds then .ok ⟨seconds, time.2⟩ else .error .outOfRange

/-- The greatest offset, which is also the bound of negative ones: a minute less than a day. -/
def greatestOffset : Int := (23 * 60 + 59) * 60

/-- The instant an RFC 3339 text names: `parse_from_rfc3339`. The date is checked before the time is
looked at, the time before the offset. -/
def read (cs : List Char) : Except TextFault Instant := do
  if Utf8.length cs < 19 then throw .tooShort
  let (year, cs) ← digits 4 cs
  let cs ← expect '-' cs
  let (month, cs) ← digits 2 cs
  let cs ← expect '-' cs
  let (day, cs) ← digits 2 cs
  let date ← calendarDate ⟨year, month, day⟩
  let cs ← expectTime cs
  let (hour, cs) ← digits 2 cs
  let cs ← expect ':' cs
  let (minute, cs) ← digits 2 cs
  let cs ← expect ':' cs
  let (second, cs) ← digits 2 cs
  let (nanos, cs) ← optionalFraction cs
  let time ← timeOfDay hour minute second nanos
  let (shift, cs) ← offset (expect ':') cs
  if greatestOffset < shift ∨ shift < -greatestOffset then throw .outOfRange
  if !cs.isEmpty then throw .trailing
  ofLocal date time shift

/-! ## Lenient reading

The form in records: blanks may stand before every number and between the parts, numbers may have
fewer digits, the year a sign and then any number of digits, and the offset may be `UTC`. -/

/-- A number after blanks, with at most `most` digits. -/
def looseNumber (most : Nat) (cs : List Char) : Except TextFault (Nat × List Char) :=
  number 1 most (trimLeft cs)

/-- The year: up to four digits, or a sign and any number of them. -/
def looseYear (cs : List Char) : Except TextFault (Int × List Char) :=
  match trimLeft cs with
  | '-' :: cs => (number 1 cs.length cs).map fun (n, cs) => (-(n : Int), cs)
  | '+' :: cs => (number 1 cs.length cs).map fun (n, cs) => ((n : Int), cs)
  | cs => (number 1 4 cs).map fun (n, cs) => ((n : Int), cs)

/-- A character after blanks. -/
def looseExpect (c : Char) (cs : List Char) : Except TextFault (List Char) :=
  expect c (trimLeft cs)

/-- `UTC`, or an offset whose hours and minutes stand next to each other or have colons and blanks
between them. -/
def looseOffset (cs : List Char) : Except TextFault (Int × List Char) :=
  if (cs.take 3).map Char.toUpper = ['U', 'T', 'C'] then .ok (0, cs.drop 3)
  else offset (fun cs => .ok (cs.dropWhile fun c => c == ':' || isBlank c)) cs

/-- The instant a lenient text names. -/
def readLoose (cs : List Char) : Except TextFault Instant := do
  let (year, cs) ← looseYear cs
  let cs ← looseExpect '-' cs
  let (month, cs) ← looseNumber 2 cs
  let cs ← looseExpect '-' cs
  let (day, cs) ← looseNumber 2 cs
  let cs ← expectTime cs
  let (hour, cs) ← looseNumber 2 cs
  let cs ← looseExpect ':' cs
  let (minute, cs) ← looseNumber 2 cs
  let cs ← looseExpect ':' cs
  let (second, cs) ← looseNumber 2 cs
  let (nanos, cs) ← optionalFraction cs
  let (shift, cs) ← looseOffset (trimLeft cs)
  if !(trimLeft cs).isEmpty then throw .trailing
  let date ← calendarDate ⟨year, month, day⟩
  let time ← timeOfDay hour minute second nanos
  if 86400 ≤ shift ∨ shift ≤ -86400 then throw .outOfRange
  ofLocal date time shift

end Instant

end Conform.Time
