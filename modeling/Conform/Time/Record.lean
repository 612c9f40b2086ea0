import Conform.Json.Record
import Conform.Json.Text
import Conform.Time.Timestamp

/-!
# Timestamps as records

The record of a timestamp in JSON: its instant, with as many digits as it takes, and the name of its
unit. A record is read as it is: its instant is not cut down to the unit.

This is what `Timestamp` derives for `Serialize` and `Deserialize`.
-/

namespace Conform.Time

open Conform.Json

namespace Timestamp

def toJson (t : Timestamp) : Json :=
  .object [("instant", .string (t.instant.text .fewest)), ("unit", .string t.precision.name)]

/-- A unit: its name, or an object with the name as its only key and nothing in it. -/
def unitOf? : Raw → Option Precision
  | .string pieces => (Piece.text? pieces).bind fun cs => Precision.named? (String.ofList cs)
  | .object [(key, .null)] =>
    (Piece.text? key).bind fun cs => Precision.named? (String.ofList cs)
  | _ => none

/-- The timestamp of a record: the derived `Deserialize` of `Timestamp`. Both fields have to be
there, and the instant is not cut. -/
def ofRaw? (r : Raw) : Option Timestamp := do
  let fields ← r.fields? ["instant", "unit"]
  let instant ← (← Records.single? "instant" fields)
  let unit ← (← Records.single? "unit" fields)
  let text ← instant.text?
  let instant ← (Instant.readLoose text.toList).toOption
  let precision ← unitOf? unit
  return ⟨instant, precision⟩

def ofJsonText? (s : String) : Option Timestamp :=
  (Raw.read? s.toList).bind ofRaw?

end Timestamp

end Conform.Time
