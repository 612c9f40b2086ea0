import Conform.Binary64.Text
import Conform.Text.Quoted

/-!
# YAML values

The values that YAML documents stand for. Keys of mappings may be of any kind. Two mappings are
equal if they hold the same pairs, in whatever order; integers and floats are never equal; and a
tag's leading exclamation mark does not count.
-/

namespace Conform

/-- A YAML value. -/
inductive Yaml where
  | null
  | boolean (b : Bool)
  | integer (i : Int)
  | float (x : Binary64)
  | string (s : String)
  | sequence (items : List Yaml)
  | mapping (pairs : List (Yaml × Yaml))
  | tagged (tag : String) (value : Yaml)

instance : Inhabited Yaml := ⟨.null⟩

namespace Yaml

open Conform.Text

/-- A tag without the exclamation mark in front of it; the mark alone stays. -/
def tagName (tag : String) : String :=
  match tag.toList with
  | ['!'] => "!"
  | '!' :: name => String.ofList name
  | _ => tag

mutual

def same : Yaml → Yaml → Bool
  | .null, .null => true
  | .boolean a, .boolean b => a == b
  | .integer a, .integer b => a == b
  | .float a, .float b => (a.isNan && b.isNan) || a.same b
  | .string a, .string b => a == b
  | .sequence a, .sequence b => sameItems a b
  | .mapping a, .mapping b => a.length == b.length && within a b
  | .tagged s a, .tagged t b => tagName s == tagName t && same a b
  | _, _ => false

def sameItems : List Yaml → List Yaml → Bool
  | [], [] => true
  | a :: as, b :: bs => same a b && sameItems as bs
  | _, _ => false

/-- Whether every pair is one of certain others. -/
def within : List (Yaml × Yaml) → List (Yaml × Yaml) → Bool
  | [], _ => true
  | (k, v) :: ps, others => others.any (fun o => same k o.1 && same v o.2) && within ps others

end

/-! ## Values as quoted values -/

def floatText (x : Binary64) : String :=
  Binary64.write .documented x

mutual

def inspect : Yaml → String
  | .null => "Null"
  | .boolean b => if b then "Bool(true)" else "Bool(false)"
  | .integer i => "Number(" ++ decimalInt i ++ ")"
  | .float x => "Number(" ++ floatText x ++ ")"
  | .string s => "String(" ++ quoted s ++ ")"
  | .sequence items => "Sequence [" ++ join ", " (inspectItems items) ++ "]"
  | .mapping pairs => "Mapping \x7b" ++ join ", " (inspectPairs pairs) ++ "\x7d"
  | .tagged tag value =>
    "TaggedValue \x7b tag: !" ++ tagName tag ++ ", value: " ++ inspect value ++ " \x7d"

/-- A key; one that is a plain scalar shows its content alone. -/
def inspectKey : Yaml → String
  | .boolean b => if b then "true" else "false"
  | .integer i => decimalInt i
  | .float x => floatText x
  | .string s => quoted s
  | .null => "Null"
  | .sequence items => "Sequence [" ++ join ", " (inspectItems items) ++ "]"
  | .mapping pairs => "Mapping \x7b" ++ join ", " (inspectPairs pairs) ++ "\x7d"
  | .tagged tag value =>
    "TaggedValue \x7b tag: !" ++ tagName tag ++ ", value: " ++ inspect value ++ " \x7d"

def inspectItems : List Yaml → List String
  | [] => []
  | v :: vs => inspect v :: inspectItems vs

def inspectPairs : List (Yaml × Yaml) → List String
  | [] => []
  | (k, v) :: ps => (inspectKey k ++ ": " ++ inspect v) :: inspectPairs ps

end

end Yaml

end Conform
