import Conform.Binary64.Text
import Conform.Term.Basic
import Conform.Text.Quoted

/-!
# Terms as quoted values

The text in which messages show a term: the kind, and the content in parentheses. Strings are
quoted; names of symbols are not.

This is the derived `Debug` of `Term`, which `Invalid` quotes.
-/

namespace Conform

open Conform.Text

def bracketed (items : List String) : String :=
  "[" ++ join ", " items ++ "]"

def Symbol.inspect (s : Symbol) : String :=
  ":" ++ s.name

def Key.inspect : Key → String
  | .symbol s => "Sym(" ++ s.inspect ++ ")"
  | .text t => "Text(" ++ quoted t ++ ")"

def Function.inspect (f : Function) : String :=
  "fun " ++ f.name ++ "/" ++ decimal f.arity.toNat

/-- A timestamp with the fewest digits that lose nothing. -/
def Time.Timestamp.inspect (t : Time.Timestamp) : String :=
  "Timestamp \x7b instant: " ++ t.instant.text .fewest ++ ", unit: " ++ t.precision.inspect
    ++ " \x7d"

namespace Term

mutual

def inspect : Term → String
  | .atom a => "Atom(" ++ a.inspect ++ ")"
  | .boolean b => if b then "Bool(true)" else "Bool(false)"
  | .integer i => "Int(" ++ decimalInt i.toInt ++ ")"
  | .float x => "Float(" ++ Binary64.write .inspected x ++ ")"
  | .string s => "Str(" ++ quoted s ++ ")"
  | .binary bytes => "Bytes(" ++ bracketed (bytes.map fun b => decimal b.toNat) ++ ")"
  | .list items => "List(" ++ bracketed (inspectItems items) ++ ")"
  | .tuple items => "Tuple(" ++ bracketed (inspectItems items) ++ ")"
  | .map pairs => "Map(" ++ bracketed (inspectPairs pairs) ++ ")"
  | .address a => "Ip(" ++ a.text ++ ")"
  | .network n => "IpMask(" ++ n.address.text ++ ", " ++ decimal n.length.toNat ++ ")"
  | .uri u => "Uri(" ++ u.inspect ++ ")"
  | .timestamp t => "Timestamp(" ++ t.inspect ++ ")"
  | .function f => "Fun(" ++ f.inspect ++ ")"

def inspectItems : List Term → List String
  | [] => []
  | t :: ts => inspect t :: inspectItems ts

def inspectPairs : List (Key × Term) → List String
  | [] => []
  | (k, t) :: ps => ("(" ++ k.inspect ++ ", " ++ inspect t ++ ")") :: inspectPairs ps

end

end Term

end Conform
