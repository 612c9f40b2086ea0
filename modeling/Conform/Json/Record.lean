import Conform.Json.Reading
import Conform.Record

/-!
# Records in JSON

Fields that a record does not have may hold anything that is well formed.
-/

namespace Conform.Json

def Raw.text? : Raw → Option String
  | .string pieces => (Piece.text? pieces).map String.ofList
  | _ => none

def Raw.flag? : Raw → Option Bool
  | .boolean b => some b
  | _ => none

def Raw.fields? (names : List String) : Raw → Option (List (String × Raw))
  | .object members =>
    members.mapM fun m => (Piece.text? m.1).map fun cs => (String.ofList cs, m.2)
  | .array items => Records.inOrder? names items
  | _ => none

def records : Records Raw :=
  ⟨Raw.fields?, Raw.text?, Raw.flag?⟩

end Conform.Json
