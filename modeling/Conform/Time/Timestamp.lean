import Conform.Integer
import Conform.Time.Instant

/-!
# Timestamps

An instant together with the precision it is kept at. A timestamp comes from RFC 3339 text, whose
offset is taken into account, or from a count of units since the start of 1970; either way the
instant is cut down to a whole number of units. It prints with exactly the digits of its precision.

This is `Timestamp`, with `to_canonical`, `from_epoch`, `truncate`, `epoch` and `to_rfc3339`.
-/

namespace Conform.Time

open Conform.Text

/-- The unit in which the instants of a timestamp are counted: `TimeUnit`. -/
inductive Precision where
  | second
  | millisecond
  | microsecond
  | nanosecond
deriving DecidableEq

namespace Precision

def nanos : Precision → Nat
  | .second => 1000000000
  | .millisecond => 1000000
  | .microsecond => 1000
  | .nanosecond => 1

def perSecond : Precision → Nat
  | .second => 1
  | .millisecond => 1000
  | .microsecond => 1000000
  | .nanosecond => 1000000000

def digits : Precision → Nat
  | .second => 0
  | .millisecond => 3
  | .microsecond => 6
  | .nanosecond => 9

def all : List Precision := [.second, .millisecond, .microsecond, .nanosecond]

def name : Precision → String
  | .second => "second"
  | .millisecond => "millisecond"
  | .microsecond => "microsecond"
  | .nanosecond => "nanosecond"

def inspect : Precision → String
  | .second => "Second"
  | .millisecond => "Millisecond"
  | .microsecond => "Microsecond"
  | .nanosecond => "Nanosecond"

def named? (s : String) : Option Precision :=
  all.find? (·.name == s)

theorem named_name (p : Precision) : named? p.name = some p := by
  cases p <;> decide

/-- The coarser precision comes first. -/
instance : Ord Precision where
  compare a b := compare a.digits b.digits

end Precision

/-- An instant and the precision it is kept at. -/
structure Timestamp where
  instant : Instant
  precision : Precision
deriving DecidableEq

/-- Why an input is no timestamp. -/
inductive Fault where
  /-- The text is not RFC 3339. -/
  | text (fault : TextFault)
  /-- The count leads out of the years that dates are kept for. -/
  | count (precision : Precision)
deriving DecidableEq

def Fault.message : Fault → String
  | .text fault => fault.message
  | .count precision => "out of range for unit " ++ precision.inspect

namespace Timestamp

def order (a b : Timestamp) : Ordering :=
  (compare a.instant b.instant).then (compare a.precision b.precision)

instance : Ord Timestamp := ⟨order⟩

/-- The instant without what is finer than a unit (`truncate`); as it is, should that be no instant. -/
def truncate (p : Precision) (t : Instant) : Instant :=
  (t.withNanos? (t.nanos - t.nanos % p.nanos)).getD t

/-- The instant of a count of units since the start of 1970, unless it is out of range
(`from_epoch`). -/
def instantOfCount? (p : Precision) (n : Int) : Option Instant :=
  let seconds := n / p.perSecond
  if Instant.inRange seconds then some ⟨seconds, (n % p.perSecond).toNat * p.nanos⟩ else none

/-- The timestamp an RFC 3339 text names (`to_canonical`); blanks around it do not matter. -/
def ofText (p : Precision) (s : String) : Except Fault Timestamp :=
  match Instant.read (trim s.toList) with
  | .ok t => .ok ⟨truncate p t, p⟩
  | .error fault => .error (.text fault)

/-- The timestamp of a count of units since the start of 1970 (`to_canonical`). -/
def ofCount (p : Precision) (n : Int64) : Except Fault Timestamp :=
  match instantOfCount? p n.toInt with
  | some t => .ok ⟨truncate p t, p⟩
  | none => .error (.count p)

/-- The count of units since the start of 1970 (`Timestamp::epoch`). A count of nanoseconds that 64
bits cannot hold is given as the greatest one. -/
def epoch (t : Timestamp) : Int :=
  let count := t.instant.seconds * t.precision.perSecond
    + (t.instant.nanos / t.precision.nanos : Nat)
  match t.precision with
  | .second => t.instant.seconds
  | .millisecond | .microsecond => count
  | .nanosecond => if leastInt64 ≤ count ∧ count ≤ greatestInt64 then count else greatestInt64

/-- RFC 3339 text with the digits of the precision (`to_rfc3339`). -/
def text (t : Timestamp) : String :=
  t.instant.text (.digits t.precision.digits)

end Timestamp

end Conform.Time
