import Conform.Term.Json
import Conform.Yaml.Basic

/-!
# YAML values as terms

As with JSON: strings are strings, null is the symbol of that name, integers of more than 64 bits
become floats. Tags are passed over. Keys have to be strings, numbers or truth values, and become
texts.

This is `from_yaml`, whose one failure is `CoreError::Conversion`.
-/

namespace Conform

open Conform.Text

/-- Why a YAML value is no term: `CoreError::Conversion`, for a key that is neither string nor
number nor truth value. -/
structure KeyFault where
  key : Yaml

def KeyFault.message (f : KeyFault) : String :=
  "term conversion error: unsupported YAML map key: " ++ f.key.inspect

namespace Term

def keyOfYaml : Yaml → Except KeyFault String
  | .string s => .ok s
  | .integer i => .ok (decimalInt i)
  | .float x => .ok (Yaml.floatText x)
  | .boolean b => .ok (if b then "true" else "false")
  | key => .error ⟨key⟩

mutual

/-- A YAML value as a term (`from_yaml`). -/
def ofYaml : Yaml → ExceptT KeyFault Creating Term
  | .null => null
  | .boolean b => return .boolean b
  | .integer i => return ofInteger i
  | .float x => return .float x
  | .string s => return .string s
  | .sequence items => return .list (← itemsOfYaml items)
  | .mapping pairs => return .map (← pairsOfYaml pairs)
  | .tagged _ value => ofYaml value

def itemsOfYaml : List Yaml → ExceptT KeyFault Creating (List Term)
  | [] => return []
  | v :: vs => do
    let t ← ofYaml v
    let ts ← itemsOfYaml vs
    return t :: ts

/-- The pairs of a mapping as pairs; each key before its value. -/
def pairsOfYaml : List (Yaml × Yaml) → ExceptT KeyFault Creating Pairs
  | [] => return []
  | (k, v) :: ps => do
    let key ← (keyOfYaml k : ExceptT KeyFault Creating String)
    let t ← ofYaml v
    let ts ← pairsOfYaml ps
    return (.text key, t) :: ts

end

end Term

end Conform
