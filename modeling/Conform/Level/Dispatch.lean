import Conform.Journal
import Conform.Schema.Basic

/-!
# Dispatching values

A rule stands for a dispatcher: a function from a key, a value and the state of the level to what
becomes of the field. Each kind of rule has its dispatcher, made from those of the rules within it,
and a nested schema stands for a run through the level's pairs:

1. each pair is dispatched; a key without a rule is noted as unknown;
2. each default whose name has not been accepted is dispatched like a pair, unless the level is a
   nested one that arrived empty;
3. the first mandatory key that is still missing fails the call.

Every failure ends the whole call.

The run is `parse_level`, its step `process_pair`; the dispatchers are the cases of `resolve`, and
`run_callback`.
-/

namespace Conform

/-- What became of a dispatched value: `Resolved`. -/
inductive Found where
  /-- A pair, what was accepted within it and which keys within it had no rule. -/
  | accept (key : Key) (value : Term) (flattened : List (Path × Term)) (unknown : List Path)
  | drop
  /-- The pairs that replace all accepted so far. -/
  | replaceAll (pairs : Pairs)

/-- What a rule does with a field: a case of `resolve`. -/
abbrev Dispatch := Key → Term → Level → Run Found

namespace Level

/-- A level before its first pair. -/
def start (path : Path) (options : Options) : Level :=
  ⟨path, options, [], [], []⟩

/-- Whether a key of this name has been accepted (`Context::has`). -/
def has (l : Level) (key : Key) : Bool :=
  l.accepted.any fun p => p.1.sameName key

/-- The end of `process_pair`: takes what a dispatcher found into the state. -/
def take (l : Level) : Found → Level
  | .accept key value flattened unknown =>
    { l with
      flattened := l.flattened ++ (l.path.child key, value) :: flattened
      unknown := l.unknown ++ unknown
      accepted := l.accepted ++ [(key, value)] }
  | .drop => l
  | .replaceAll pairs =>
    { l with
      flattened := pairs.map fun p => (l.path.child p.1, p.2)
      accepted := pairs }

/-- The start of `process_pair` for a key without a rule: it is noted, and warned of if
`warn_unknown` is set. -/
def note (l : Level) (key : Key) : Run Level := fun j =>
  let path := l.path.child key
  let j := if l.options.warnUnknown then j.log (.unknownKey path) else j
  (.ok { l with unknown := l.unknown ++ [path] }, j)

/-- Dispatches one pair by the rule of its key (`process_pair`). -/
def process (table : List (Key × Dispatch)) (l : Level) (pair : Key × Term) : Run Level := fun j =>
  match valueFor? j.session.symbols table pair.1 with
  | none => l.note pair.1 j
  | some dispatch => (return l.take (← dispatch pair.1 pair.2 l) : Run Level) j

/-- A default of `parse_level`: dispatched unless its name has been accepted. -/
def processDefault (table : List (Key × Dispatch)) (l : Level) (pair : Key × Term) : Run Level :=
  if l.has pair.1 then pure l else l.process table pair

/-- The end of `parse_level`: fails with the first mandatory key that has not been accepted. -/
def demand (l : Level) (keys : List Key) : Run Level :=
  match keys.find? fun k => !l.has k with
  | some k => throw (.missing (l.path.child k))
  | none => pure l

/-- The run through a level's pairs (`parse_level`). `fill` tells whether the defaults are applied. -/
def run (table : List (Key × Dispatch)) (defaults : Pairs) (mandatory : List Key) (fill : Bool)
    (pairs : Pairs) (l : Level) : Run Level := do
  let l ← pairs.foldlM (process table) l
  let l ← (if fill then defaults else []).foldlM (processDefault table) l
  l.demand mandatory

end Level

namespace Dispatch

/-- A value taken under a key, with nothing within it (`Resolved::leaf`). -/
def leaf (key : Key) (value : Term) : Found :=
  .accept key value [] []

/-- Validates against a tag. -/
def type (tag : Tag) : Dispatch := fun key value level j =>
  match tag.validate j.session.symbols value with
  | .ok t => (.ok (leaf key t), j)
  | .error m => (.error (.invalid (level.path.child key) (.mismatch m)), j)

def ignore : Dispatch := fun _ _ _ => pure .drop

/-- What `run_callback` makes of a verdict. -/
def ofVerdict (path : Path) (key : Key) (value : Term) : Verdict → Except ParseError Found
  | .accept => .ok (leaf key value)
  | .replace new => .ok (leaf key new)
  | .rename newKey new => .ok (leaf newKey new)
  | .reject => .error (.invalid path .rejected)
  | .error detail => .error (.refused path detail)
  | .replaceAll pairs => .ok (.replaceAll pairs)

/-- Asks a callback (`run_callback`). One without a verdict has panicked, which is logged and ends
the call. -/
def callback (c : Callback) : Dispatch := fun key value level j =>
  let path := level.path.child key
  let (outcome, session) := c.apply key value level j.session
  let j := { j with session := session }
  match outcome with
  | some v => (ofVerdict path key value v, j)
  | none => (.error (.callbackFault path), j.log (.callbackFault path key))

/-- The loop of `validate_list` over the step that `resolve` gives it: dispatches each item; gives
the values taken, what was accepted within them and which keys within them had no rule. -/
def items (path : Path) (dispatch : Term → Run Found) :
    List Term → Run (List Term × List (Path × Term) × List Path)
  | [] => pure ([], [], [])
  | t :: ts => do
    match ← dispatch t with
    | .accept _ value flattened unknown =>
      let (values, flattened', unknown') ← items path dispatch ts
      return (value :: values, flattened ++ flattened', unknown ++ unknown')
    | .drop => items path dispatch ts
    | .replaceAll _ => throw (.invalid path .bulkReplacement)

/-- Dispatches the items of a value and arranges the results. -/
def list (d : Discipline) (inner : Dispatch) : Dispatch := fun key value level => do
  let (values, flattened, unknown) ←
    items (level.path.child key) (fun t => inner key t level) (ListRule.elements value)
  return .accept key (.list (ListRule.arrange values d)) flattened unknown

/-- The first alternative that takes the value; `count` is how many there were. An error that is not
`is_data_error` ends the search. -/
def firstOf (count : Nat) : List Dispatch → Dispatch
  | [], key, value, level =>
    throw (.invalid (level.path.child key) (.noAlternative value.kind count))
  | d :: ds, key, value, level => fun j =>
    match d key value level j with
    | (.error e, j) => if e.isData then firstOf count ds key value level j else (.error e, j)
    | found => found

/-- A nested schema: `parse_level` on the value's pairs, at the path of the key. -/
def nested (table : List (Key × Dispatch)) (defaults : Pairs) (mandatory : List Key) : Dispatch :=
  fun key value level => do
    let path := level.path.child key
    match value.pairs? with
    | none => throw (.invalid path (.notNested value.kind))
    | some pairs =>
      let inner ← Level.run table defaults mandatory (!pairs.isEmpty) pairs
        (.start path level.options)
      return .accept key (.map inner.accepted) inner.flattened inner.unknown

end Dispatch

mutual

/-- The dispatcher that a rule stands for (`resolve`). -/
def Rule.dispatch : Rule → Dispatch
  | .type tag => Dispatch.type tag
  | .list d inner => Dispatch.list d inner.dispatch
  | .oneOf alternatives => Dispatch.firstOf alternatives.length (Rule.dispatchAll alternatives)
  | .nested s => s.dispatch
  | .callback c => Dispatch.callback c
  | .ignore => Dispatch.ignore

/-- The dispatcher that a nested schema stands for. -/
def Schema.dispatch : Schema → Dispatch
  | ⟨fields, defaults, mandatory⟩ =>
    Dispatch.nested (Rule.dispatchFields fields) defaults (mandatory.getD [])

def Rule.dispatchAll : List Rule → List Dispatch
  | [] => []
  | r :: rs => r.dispatch :: Rule.dispatchAll rs

def Rule.dispatchFields : List (Key × Rule) → List (Key × Dispatch)
  | [] => []
  | (k, r) :: fs => (k, r.dispatch) :: Rule.dispatchFields fs

end

end Conform
