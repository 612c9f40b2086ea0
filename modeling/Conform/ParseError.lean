import Conform.Rule

/-!
# Errors of parsing

The first failure ends a call; it carries the dotted path of the field it is about. A rule's name
that is none is an error of the schema's author, not of the data, and has no path.

This is `ParseError`, with `path` and `is_data_error`.
-/

namespace Conform

open Conform.Text

/-- What is wrong with a field's value: the texts that the calls of `ParseError::syntax` and a
callback's `Reject` put into an error. -/
inductive Reason where
  | mismatch (m : Mismatch)
  /-- The input as a whole has no pairs. -/
  | notPairs (kind : String)
  /-- The value of a nested level has no pairs. -/
  | notNested (kind : String)
  /-- No alternative takes the value. -/
  | noAlternative (kind : String) (count : Nat)
  | rejected
  /-- A callback on an item of a list wants to replace the level. -/
  | bulkReplacement

def Reason.message : Reason → String
  | .mismatch m => m.message
  | .notPairs kind => "expected a map or key/value list, got " ++ kind
  | .notNested kind => "expected a nested map, got " ++ kind
  | .noAlternative kind count =>
    kind ++ " matched none of " ++ decimal count ++ " alternatives"
  | .rejected => "rejected by callback"
  | .bulkReplacement => "bulk replacement is not allowed for a list element"

/-- Why a schema cannot be built or an input not be parsed: `ParseError`, by its variants. -/
inductive ParseError where
  /-- The value of a field breaks its rule. -/
  | invalid (path : Path) (reason : Reason)
  /-- A mandatory field is missing. -/
  | missing (path : Path)
  /-- A rule's name is none. -/
  | unrecognized (name : String)
  /-- A callback refuses the field for a reason of its own. -/
  | refused (path : Path) (detail : Term)
  /-- A callback failed. -/
  | callbackFault (path : Path)

namespace ParseError

def message : ParseError → String
  | .invalid path reason => "syntax error at '" ++ path.text ++ "': " ++ reason.message
  | .missing path => "missing mandatory field '" ++ path.text ++ "'"
  | .unrecognized name => "unrecognized rule tag '" ++ name ++ "'"
  | .refused path detail => "callback rejected '" ++ path.text ++ "': " ++ detail.inspect
  | .callbackFault path => "callback for '" ++ path.text ++ "' failed unexpectedly"

/-- The path of the field that the error is about (`ParseError::path`). -/
def path? : ParseError → Option Path
  | .invalid path _ | .missing path | .refused path _ | .callbackFault path => some path
  | .unrecognized _ => none

/-- Whether the data are wrong, and not the schema or a callback (`is_data_error`). Only then the
next alternative is tried. -/
def isData : ParseError → Bool
  | .invalid _ _ | .missing _ | .refused _ _ => true
  | .unrecognized _ | .callbackFault _ => false

end ParseError

/-- The tag of a spelling, whose symbols are created (`TypeTag::from_str`). -/
def Tag.ofText (spelling : String) : Creating (Except ParseError Tag) := fun session =>
  match Tag.read? spelling.toList with
  | none => (.error (.unrecognized spelling), session)
  | some tag =>
    (.ok tag, { session with symbols := session.symbols.internAll (tag.symbols.map (·.name)) })

/-- The rule of a name, whose symbols are created (`Rule::named`). -/
def Rule.named (name : String) : Creating (Except ParseError Rule) := fun session =>
  match Rule.ofName name with
  | .error part => (.error (.unrecognized part), session)
  | .ok rule =>
    (.ok rule, { session with symbols := session.symbols.internAll (rule.symbols.map (·.name)) })

end Conform
