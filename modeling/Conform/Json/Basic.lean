import Conform.Binary64.Basic

/-!
# JSON values

The values that JSON documents stand for. Integers and floats are told apart; an integer has no size
limit here, since what does not fit is a matter of those who read and use it. The members of an
object keep the order in which their keys first came, and a key that comes again changes the value
in its place.
-/

namespace Conform

/-- A JSON value. -/
inductive Json where
  | null
  | boolean (b : Bool)
  | integer (i : Int)
  | float (x : Binary64)
  | string (s : String)
  | array (items : List Json)
  | object (members : List (String × Json))

instance : Inhabited Json := ⟨.null⟩

namespace Json

/-- Sets the value of a key: in its place, or at the end if the key is new. -/
def setMember (key : String) (value : Json) : List (String × Json) → List (String × Json)
  | [] => [(key, value)]
  | (k, v) :: members =>
    if k = key then (k, value) :: members else (k, v) :: setMember key value members

/-- The members that come of setting one key after another. -/
def gather (members : List (String × Json)) : List (String × Json) :=
  members.foldl (fun done m => setMember m.1 m.2 done) []

def get? (j : Json) (key : String) : Option Json :=
  match j with
  | .object members => (members.find? (·.1 == key)).map (·.2)
  | _ => none

end Json

end Conform
