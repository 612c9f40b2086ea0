import Conform.Binary64.Rounding
import Conform.Net.Address
import Conform.Symbol
import Conform.Time.Timestamp
import Conform.Uri.Basic

/-!
# Terms

The values that validation takes and gives: the plain ones that documents are made of, and those
that validation makes of them, such as addresses and timestamps. A map is an ordered list of pairs
in which a key may come twice. Its keys are symbols or texts; the two kinds are told apart but spell
the same names.

These are `Term`, `Key` and `Function`. What `Symbol::intern` and `Function::new` leave behind in a
process is the `Session` here.
-/

namespace Conform

/-- A key of a map: a symbol or a text. `Key::name` is `name`, `same_name` is `sameName`. -/
inductive Key where
  | symbol (s : Symbol)
  | text (t : String)
deriving DecidableEq

namespace Key

def name : Key → String
  | .symbol s => s.name
  | .text t => t

def sameName (a b : Key) : Bool :=
  a.name == b.name

/-- Symbols before texts; within a kind by name. -/
def order : Key → Key → Ordering
  | .symbol a, .symbol b => compare a b
  | .symbol _, .text _ => .lt
  | .text _, .symbol _ => .gt
  | .text a, .text b => compare a b

instance : Ord Key := ⟨order⟩

end Key

/-- A function of a fixed number of arguments. Its handle tells it apart from every other function,
also from one of the same name and arity. -/
structure Function where
  name : String
  arity : UInt8
  handle : Nat
deriving DecidableEq

/-- A value: `Term`, by its variants. -/
inductive Term where
  | atom (s : Symbol)
  | boolean (b : Bool)
  | integer (i : Int64)
  | float (x : Binary64)
  | string (s : String)
  | binary (bytes : List UInt8)
  | list (items : List Term)
  | tuple (items : List Term)
  | map (pairs : List (Key × Term))
  | address (a : Net.Address)
  | network (n : Net.Network)
  | uri (u : Uri)
  | timestamp (t : Time.Timestamp)
  | function (f : Function)

instance : Inhabited Term := ⟨.tuple []⟩

/-- Pairs of keys and terms, in order. -/
abbrev Pairs := List (Key × Term)

/-- What has been created so far: the symbols, and how many functions. -/
structure Session where
  symbols : SymbolTable
  functions : Nat
deriving Inhabited

/-- A step that may create symbols and functions. -/
abbrev Creating := StateM Session

namespace Session

def start : Session := ⟨.empty, 0⟩

def intern (name : String) : Creating Symbol := fun s =>
  (⟨name⟩, { s with symbols := s.symbols.intern name })

/-- Makes a function that is equal to none made before. -/
def newFunction (name : String) (arity : UInt8) : Creating Function := fun s =>
  (⟨name, arity, s.functions⟩, { s with functions := s.functions + 1 })

end Session

/-- The result of calling a function, given what each handle stands for. -/
def Function.call (bodies : Nat → List Term → Term) (f : Function) (arguments : List Term) : Term :=
  bodies f.handle arguments

namespace Term

def kind : Term → String
  | .atom _ => "atom"
  | .boolean _ => "boolean"
  | .integer _ => "integer"
  | .float _ => "float"
  | .string _ => "string"
  | .binary _ => "binary"
  | .list _ => "list"
  | .tuple _ => "tuple"
  | .map _ => "map"
  | .address _ => "ip"
  | .network _ => "ip_mask"
  | .uri _ => "uri"
  | .timestamp _ => "timestamp"
  | .function _ => "fun"

/-- The first value under a key of the given name. -/
def lookup (pairs : Pairs) (name : String) : Option Term :=
  (pairs.find? fun p => p.1.name == name).map (·.2)

/-- The first value of a map under a key of the given name (`Term::get`); other terms have none. -/
def get? (t : Term) (name : String) : Option Term :=
  match t with
  | .map pairs => lookup pairs name
  | _ => none

mutual

/-- Floats compare as numbers, functions by their handles, URIs by their text (`PartialEq`). -/
def same : Term → Term → Bool
  | .atom a, .atom b => a == b
  | .boolean a, .boolean b => a == b
  | .integer a, .integer b => a == b
  | .float a, .float b => a.same b
  | .string a, .string b => a == b
  | .binary a, .binary b => a == b
  | .list a, .list b => sameItems a b
  | .tuple a, .tuple b => sameItems a b
  | .map a, .map b => samePairs a b
  | .address a, .address b => a == b
  | .network a, .network b => a == b
  | .uri a, .uri b => a.text == b.text
  | .timestamp a, .timestamp b => a == b
  | .function a, .function b => a.handle == b.handle
  | _, _ => false

def sameItems : List Term → List Term → Bool
  | [], [] => true
  | a :: as, b :: bs => same a b && sameItems as bs
  | _, _ => false

def samePairs : List (Key × Term) → List (Key × Term) → Bool
  | [], [] => true
  | (k, a) :: as, (l, b) :: bs => k == l && same a b && samePairs as bs
  | _, _ => false

end

end Term

end Conform
