import Conform.ParseError
import Conform.Store.Slot

/-!
# Events and runs

What a run leaves behind besides its result: the symbols and functions created on the way, and the
events logged, in order. Both stay when the run fails.

The events are those of `process_pair`, `run_callback`, `load_file`, `load_document` and
`ConfigStore::put`.
-/

namespace Conform

/-- What is worth logging. -/
inductive Event where
  /-- A key without a rule. -/
  | unknownKey (path : Path)
  /-- A callback failed. -/
  | callbackFault (path : Path) (key : Key)
  /-- A value was stored. -/
  | stored (slot : Slot) (kind : String)
  /-- A file is about to be read. -/
  | loading (file : String)
  /-- A document was validated and stored. -/
  | loaded (file owner scope : String) (accepted unknown : Nat)

namespace Event

def severity : Event → String
  | .unknownKey _ => "WARN"
  | .callbackFault _ _ => "ERROR"
  | .stored _ _ | .loading _ | .loaded _ _ _ _ _ => "DEBUG"

def message : Event → String
  | .unknownKey _ => "unknown configuration key"
  | .callbackFault _ _ => "validation callback panicked"
  | .stored _ _ => "store put"
  | .loading _ => "loading configuration file"
  | .loaded _ _ _ _ _ => "configuration loaded"

def details : Event → List (String × String)
  | .unknownKey path => [("key", path.text)]
  | .callbackFault path key => [("field", path.text), ("key", key.name)]
  | .stored slot kind => [("key", slot.text), ("kind", kind)]
  | .loading file => [("path", file)]
  | .loaded file owner scope accepted unknown =>
    [("path", file), ("owner", owner), ("scope", scope), ("accepted", Text.decimal accepted),
     ("unknown", Text.decimal unknown)]

end Event

/-- What has been created and logged. -/
structure Journal where
  session : Session
  events : List Event
deriving Inhabited

/-- A run that may fail: a `Result` of `ParseError`, with the journal that stays whichever way it
ends. -/
abbrev Run := ExceptT ParseError (StateM Journal)

namespace Journal

def log (j : Journal) (e : Event) : Journal :=
  { j with events := j.events ++ [e] }

end Journal

end Conform
