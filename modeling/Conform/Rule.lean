import Conform.ListRule
import Conform.Options.Basic
import Conform.Path
import Conform.Tag.Validation

/-!
# Rules and schemas

A rule says what a field's value has to be: of a primitive type, a list, one of several
alternatives, a nested level with a schema of its own, whatever a callback decides, or nothing in
particular, in which case the field is dropped. A schema gives the rules of one level's fields, the
values of fields that may be left out, and the fields that may not.

A callback is shown the value, or the key as well, or also the state of the level. It may create symbols
and functions, and that is all it leaves behind: it has no journal to log events in and no store to put
values in. All events of a run are therefore logged by the dispatchers, and no run puts anything into a
store. A callback that comes to no verdict has failed.

The types are `Rule`, `Verdict`, `Callback`, `Multiplicity` (here `Discipline`), `Schema` and
`Context` (here `Level`).
-/

namespace Conform

/-- The `Context` of a level while its input is taken in: where it stands, what has been accepted,
the same with its path and followed by what was accepted within it, the unknown keys, and the
options of the call. -/
structure Level where
  path : Path
  options : Options
  accepted : Pairs
  flattened : List (Path × Term)
  unknown : List Path

/-- What a callback decides about a field. -/
inductive Verdict where
  /-- Take key and value as they are. -/
  | accept
  /-- Take this value. -/
  | replace (value : Term)
  /-- Take this key and this value. -/
  | rename (key : Key) (value : Term)
  /-- The value is wrong. -/
  | reject
  /-- The value is wrong, for this reason. -/
  | error (detail : Term)
  /-- Take these pairs instead of all that has been accepted at this level, and drop the field. -/
  | replaceAll (pairs : Pairs)

/-- A validator of the user's own, by what it is shown of a field. All that it can do besides deciding is to
create symbols and functions: `Creating` has the session for its only state, so a callback logs nothing and
reaches no store. -/
inductive Callback where
  | value (f : Term → Creating (Option Verdict))
  | keyed (f : Key → Term → Creating (Option Verdict))
  | contextual (f : Key → Term → Level → Creating (Option Verdict))

/-- What the user's function decides about a field, if it comes to a verdict. -/
def Callback.apply (c : Callback) (key : Key) (value : Term) (level : Level) :
    Creating (Option Verdict) :=
  match c with
  | .value f => f value
  | .keyed f => f key value
  | .contextual f => f key value level

mutual

/-- What a field's value has to be: `Rule`, with `Type`, `List`, `OneOf`, `Nested`, `Callback` and
`Ignore`. -/
inductive Rule where
  | type (tag : Tag)
  | list (d : Discipline) (inner : Rule)
  | oneOf (alternatives : List Rule)
  | nested (schema : Schema)
  | callback (c : Callback)
  | ignore

/-- The rules of a level, the values of missing fields, and the fields that must be there. -/
structure Schema where
  fields : List (Key × Rule)
  defaults : List (Key × Term)
  mandatory : Option (List Key)

end

instance : Inhabited Rule := ⟨.ignore⟩

/-! ## Rules by name -/

/-- The wrappers of rules, by what opens them. -/
def Discipline.opening : Discipline → String
  | .ordered => "list("
  | .sorted => "slist("
  | .unique => "ulist("

/-- The name of a rule inside a wrapper. -/
def Discipline.unwrap? (d : Discipline) (cs : List Char) : Option (List Char) :=
  (d.opening.toList.isPrefixOf? cs).bind (Text.dropEnd? [')'])

/-- The wrapper that a name is in, and the name inside of it. -/
def Discipline.wrapped? (cs : List Char) : Option (Discipline × List Char) :=
  [Discipline.ordered, .sorted, .unique].findSome? fun d => (d.unwrap? cs).map (d, ·)

namespace Rule

open Conform.Text

/-- Reads a rule's name; on failure gives the part that is no name. `fuel` bounds the nesting. -/
def ofNameWithin : Nat → List Char → Except String Rule
  | 0, cs => .error (String.ofList cs)
  | fuel + 1, cs =>
    let cs := trim cs
    if cs = "ignore".toList then .ok .ignore
    else
      match Discipline.wrapped? cs with
      | some (d, inner) => (ofNameWithin fuel inner).map (.list d)
      | none =>
        match Tag.read? cs with
        | some tag => .ok (.type tag)
        | none => .error (String.ofList cs)

/-- `Rule::named` without its symbols: a tag's spelling, `ignore`, or a list of another name. On
failure the part that is no name. -/
def ofName (name : String) : Except String Rule :=
  ofNameWithin (name.toList.length + 1) name.toList

def symbols : Rule → List Symbol
  | .type tag => tag.symbols
  | .list _ inner => inner.symbols
  | _ => []

end Rule

end Conform
