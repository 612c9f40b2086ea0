import Conform.Integer
import Conform.Symbol
import Conform.Term.Inspect
import Conform.Text.Blank
import Conform.Text.Split
import Conform.Time.Timestamp

/-!
# Type tags

The primitive types that a field may have. A tag is spelled as a name, some with arguments in
parentheses; reading a spelling is forgiving about blanks, empty arguments and two older names,
writing it is not.

This is `TypeTag`, with `from_str`, `fmt` and the derived `Debug`.
-/

namespace Conform

open Conform.Text

/-- A primitive type: `TypeTag`. `nonnegative` is `PosInteger`, `positive` is `NatInteger`. -/
inductive Tag where
  | any
  | atom
  | enumeration (members : List Symbol)
  | boolean
  | integer
  | nonnegative
  | positive
  | range (low high : Option Int64)
  | oneOfIntegers (members : List Int64)
  | float
  | string
  | binary
  | lowerBinary
  | host
  | host6
  | address
  | network
  | port
  | email
  | uri
  | tokens
  | path
  | base64
  | base64Url
  | function (arity : UInt8)
  | logLevel
  | map
  | timestamp (precision : Time.Precision)
deriving DecidableEq

namespace Tag

/-- The tags that are spelled by a name alone. -/
def plain : List (String × Tag) :=
  [("any", .any), ("atom", .atom), ("boolean", .boolean), ("integer", .integer),
   ("pos_integer", .nonnegative), ("nat_integer", .positive), ("float", .float),
   ("string", .string), ("binary", .binary), ("lower_binary", .lowerBinary), ("host", .host),
   ("host6", .host6), ("ip", .address), ("ip_mask", .network), ("port", .port),
   ("email", .email), ("uri", .uri), ("tokens", .tokens), ("path", .path), ("base64", .base64),
   ("base64url", .base64Url), ("log_level", .logLevel), ("map", .map)]

/-- Names that `TypeTag::from_str` reads and `fmt` never writes. -/
def older : List (String × Tag) :=
  [("int", .integer), ("non_neg", .positive), ("timestamp", .timestamp .second)]

/-- A name with arguments. -/
def applied (name : String) (arguments : List String) : String :=
  name ++ "(" ++ join "," arguments ++ ")"

/-- A bound, an underscore if there is none. -/
def boundText : Option Int64 → String
  | none => "_"
  | some i => decimalInt i.toInt

/-- The spelling of a tag, as `TypeTag` is shown. -/
def text : Tag → String
  | .any => "any"
  | .atom => "atom"
  | .enumeration members => applied "enum" (members.map Symbol.name)
  | .boolean => "boolean"
  | .integer => "integer"
  | .nonnegative => "pos_integer"
  | .positive => "nat_integer"
  | .range low high => applied "int" [boundText low, boundText high]
  | .oneOfIntegers members => applied "int_set" (members.map fun i => decimalInt i.toInt)
  | .float => "float"
  | .string => "string"
  | .binary => "binary"
  | .lowerBinary => "lower_binary"
  | .host => "host"
  | .host6 => "host6"
  | .address => "ip"
  | .network => "ip_mask"
  | .port => "port"
  | .email => "email"
  | .uri => "uri"
  | .tokens => "tokens"
  | .path => "path"
  | .base64 => "base64"
  | .base64Url => "base64url"
  | .function arity => applied "fun" [decimal arity.toNat]
  | .logLevel => "log_level"
  | .map => "map"
  | .timestamp precision => applied "timestamp" [precision.name]

/-! ## Reading -/

/-- An integer of 64 bits, written in decimal with a sign or none. -/
def readInt64? (cs : List Char) : Option Int64 :=
  (readInt? 10 cs).bind toInt64?

/-- A bound; an underscore is none. -/
def readBound? (cs : List Char) : Option (Option Int64) :=
  if cs = ['_'] then some none else (readInt64? cs).map some

/-- A number of eight bits. -/
def readArity? (cs : List Char) : Option UInt8 :=
  (readUnsigned? 10 cs).bind fun n => if n < 256 then some (UInt8.ofNat n) else none

def ofApplied? (name : String) (arguments : List (List Char)) : Option Tag :=
  if name = "enum" then some (.enumeration (arguments.map fun a => ⟨String.ofList a⟩))
  else if name = "int_set" then (arguments.mapM readInt64?).map .oneOfIntegers
  else match arguments with
    | [a] =>
      if name = "fun" then (readArity? a).map .function
      else if name = "timestamp" then (Time.Precision.named? (String.ofList a)).map .timestamp
      else none
    | [a, b] =>
      if name = "int" then
        (readBound? a).bind fun low => (readBound? b).map fun high => .range low high
      else none
    | _ => none

/-- The arguments between parentheses: trimmed, the empty ones left out. -/
def readArguments (cs : List Char) : List (List Char) :=
  ((pieces ',' cs).map trim).filter (!·.isEmpty)

/-- The tag that a text spells (`TypeTag::from_str`). -/
def read? (cs : List Char) : Option Tag :=
  let cs := trim cs
  match cut '(' cs with
  | none => ((plain ++ older).find? (·.1 == String.ofList cs)).map (·.2)
  | some (name, rest) =>
    (dropEnd? [')'] rest).bind fun inner =>
      ofApplied? (String.ofList (trim name)) (readArguments inner)

def symbols : Tag → List Symbol
  | .enumeration members => members
  | _ => []

/-! ## Tags as quoted values -/

def inspectBound : Option Int64 → String
  | none => "None"
  | some i => "Some(" ++ decimalInt i.toInt ++ ")"

def inspect : Tag → String
  | .any => "Any"
  | .atom => "Atom"
  | .enumeration members => "Enum(" ++ bracketed (members.map Symbol.inspect) ++ ")"
  | .boolean => "Boolean"
  | .integer => "Integer"
  | .nonnegative => "PosInteger"
  | .positive => "NatInteger"
  | .range low high =>
    "IntRange \x7b min: " ++ inspectBound low ++ ", max: " ++ inspectBound high ++ " \x7d"
  | .oneOfIntegers members =>
    "IntSet(" ++ bracketed (members.map fun i => decimalInt i.toInt) ++ ")"
  | .float => "Float"
  | .string => "String"
  | .binary => "Binary"
  | .lowerBinary => "LowerBinary"
  | .host => "Host"
  | .host6 => "Host6"
  | .address => "Ip"
  | .network => "IpMask"
  | .port => "Port"
  | .email => "Email"
  | .uri => "Uri"
  | .tokens => "Tokens"
  | .path => "Path"
  | .base64 => "Base64"
  | .base64Url => "Base64Url"
  | .function arity => "Fun(" ++ decimal arity.toNat ++ ")"
  | .logLevel => "LogLevel"
  | .map => "Map"
  | .timestamp precision => "Timestamp(" ++ precision.inspect ++ ")"

end Tag

end Conform
