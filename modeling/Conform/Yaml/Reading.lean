import Conform.Yaml.Node
import Conform.Yaml.Resolution

/-!
# Reading YAML

The value of a document. Aliases stand for copies of the nodes they refer to, which may contain them
again: what ends such a document is that collections may be only so deep inside each other, and that
aliases may be followed only so often. A local tag, one that starts with an exclamation mark, stays
with its value; of a mapping no two keys may be equal.
-/

namespace Conform.Yaml

/-- A step that may follow aliases; the state is how often this may still happen. -/
abbrev Following := StateT Nat Option

/-- A node that is no alias, in place of an alias. -/
def follow (table : Node.Targets) (n : Node Nat) : Following (Node Nat) :=
  match n with
  | .alias _ => fun left =>
    match left with
    | 0 => none
    | left + 1 => (n.follow? table).map (·, left)
  | n => pure n

/-- The name of a local tag. -/
def localTag? (tag : Option (List Char)) : Option (List Char) :=
  match tag with
  | some ('!' :: name) => some name
  | _ => none

/-- A value with the local tag of its node, which may not be without a name. -/
def attach (tag : Option (List Char)) (v : Yaml) : Option Yaml :=
  match localTag? tag with
  | none => some v
  | some [] => none
  | some name => some (.tagged (String.ofList name) v)

/-- The pairs unless two keys are equal. -/
def distinct? : List (Yaml × Yaml) → Option (List (Yaml × Yaml))
  | [] => some []
  | (k, v) :: ps =>
    if ps.any (fun p => same p.1 k) then none else (distinct? ps).map ((k, v) :: ·)

def ofScalar (tag : Option (List Char)) (style : Style) (text : List Char) : Option Yaml :=
  match tag with
  | none => ofUntagged style text
  | some tag' =>
    if (localTag? tag).isSome then (ofUntagged style text).bind (attach tag)
    else ofCoreTag tag' text

/-- The value of a node, given how to find those of the nodes inside it, unless there are too many
collections around it. -/
def valueWith (table : Node.Targets) (inside : Option (Node Nat → Following Yaml))
    (n : Node Nat) : Following Yaml := do
  match ← follow table n with
  | .alias _ => failure
  | .scalar p style text => StateT.lift (ofScalar p.tag style text)
  | .sequence p items =>
    let value ← StateT.lift inside
    let values ← items.mapM value
    StateT.lift (attach p.tag (.sequence values))
  | .mapping p pairs =>
    let value ← StateT.lift inside
    let values ← pairs.mapM fun pair => do
      let k ← value pair.1
      let v ← value pair.2
      return (k, v)
    let values ← StateT.lift (distinct? values)
    StateT.lift (attach p.tag (.mapping values))

/-- The value of a node with at most so many collections inside each other. -/
def value (table : Node.Targets) : Nat → Node Nat → Following Yaml
  | 0 => valueWith table none
  | depth + 1 => valueWith table (some (value table depth))

/-- How many collections a document may have inside each other. -/
def greatestDepth : Nat := 128

/-- How often aliases may be followed for each unit of a document's size. -/
def aliasAllowance : Nat := 100

def Document.value? (d : Document) : Option Yaml :=
  (value d.targets greatestDepth d.root (aliasAllowance * d.root.size)).map (·.1)

/-- The value that a text stands for; a text without a document stands for nothing. -/
def read? (s : String) : Option Yaml := do
  match ← Document.ofText? s.toList with
  | none => return .null
  | some d => d.value?

end Conform.Yaml
