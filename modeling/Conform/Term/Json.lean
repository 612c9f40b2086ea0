import Conform.Integer
import Conform.Json.Basic
import Conform.Term.Inspect
import Conform.Text.Utf8

/-!
# Terms and JSON

A term as a JSON value, and a JSON value as a term. What JSON has no form for is written as text;
bytes that are no text are written as an array of numbers. In the other direction every string is a
string, every key a text, and null is a symbol, the one symbol that a document may bring into being.
Integers of more than 64 bits become floats.

These are `to_json` and `from_json`.
-/

namespace Conform.Term

open Conform.Text

mutual

/-- A term as a JSON value (`to_json`). -/
def toJson : Term → Json
  | .atom a => .string a.name
  | .boolean b => .boolean b
  | .integer i => .integer i.toInt
  | .float x => if x.isFinite then .float x else .null
  | .string s => .string s
  | .binary bytes =>
    match Utf8.decode bytes with
    | some cs => .string (String.ofList cs)
    | none => .array (bytes.map fun b => .integer b.toNat)
  | .list items => .array (itemsToJson items)
  | .tuple items => .array (itemsToJson items)
  | .map pairs => .object (Json.gather (pairsToJson pairs))
  | .address a => .string a.text
  | .network n => .string n.text
  | .uri u => .string u.text
  | .timestamp t => .string t.text
  | .function f => .string f.inspect

def itemsToJson : List Term → List Json
  | [] => []
  | t :: ts => toJson t :: itemsToJson ts

/-- The pairs of a map as members, by the names of their keys. -/
def pairsToJson : List (Key × Term) → List (String × Json)
  | [] => []
  | (k, t) :: ps => (k.name, toJson t) :: pairsToJson ps

end

/-- An integer, as a float if it does not fit into 64 bits. -/
def ofInteger (i : Int) : Term :=
  match toInt64? i with
  | some i => .integer i
  | none => .float (Binary64.ofInt i)

/-- The symbol that stands for nothing at all. -/
def null : Creating Term :=
  return .atom (← Session.intern "null")

mutual

/-- A JSON value as a term (`from_json`). Null is the atom `null`, which is created. -/
def ofJson : Json → Creating Term
  | .null => null
  | .boolean b => return .boolean b
  | .integer i => return ofInteger i
  | .float x => return .float x
  | .string s => return .string s
  | .array items => return .list (← itemsOfJson items)
  | .object members => return .map (← pairsOfJson members)

def itemsOfJson : List Json → Creating (List Term)
  | [] => return []
  | j :: js => do
    let t ← ofJson j
    let ts ← itemsOfJson js
    return t :: ts

/-- The members of an object as pairs. -/
def pairsOfJson : List (String × Json) → Creating Pairs
  | [] => return []
  | (k, j) :: ms => do
    let t ← ofJson j
    let ps ← pairsOfJson ms
    return (.text k, t) :: ps

end

end Conform.Term
