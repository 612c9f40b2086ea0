import Conform.Record
import Conform.Yaml.Node
import Conform.Yaml.Resolution

/-!
# Records in YAML

Every scalar is a text here, however it looks, and tags do not matter. Truth values are plain
scalars. A record that is left empty has no field.
-/

namespace Conform.Yaml

def nodeText? (table : Node.Targets) (n : Node Nat) : Option String :=
  match n.follow? table with
  | some (.scalar _ _ text) => some (String.ofList text)
  | _ => none

def nodeFlag? (table : Node.Targets) (n : Node Nat) : Option Bool :=
  match n.follow? table with
  | some (.scalar p style text) =>
    if style = .plain ∨ (style = .literal ∧ p.tag = some (corePrefix ++ "bool").toList) then
      readBoolean? text
    else none
  | _ => none

def nodeFields? (table : Node.Targets) (names : List String) (n : Node Nat) :
    Option (List (String × Node Nat)) :=
  match n.follow? table with
  | some (.mapping _ pairs) => pairs.mapM fun p => (nodeText? table p.1).map (·, p.2)
  | some (.sequence _ items) => Records.inOrder? names items
  | some (.scalar _ style text) => if style = .plain ∧ text = [] then some [] else none
  | _ => none

def records (table : Node.Targets) : Records (Node Nat) :=
  ⟨nodeFields? table, nodeText? table, nodeFlag? table⟩

end Conform.Yaml
