import Conform.LexicalPath
import Conform.Tag.Basic
import Conform.Term.Views
import Conform.Text.Base64
import Conform.TokenList
import Conform.Uri.Reading

/-!
# Validation against a tag

Every tag accepts a family of terms and makes the one kind of term out of them that stands for the
type: numbers from numeric text, addresses from their text, bytes from Base64. A term that is
already of that kind passes as it is. Symbols are only looked up, never created.

This is `validate`, with one function for each `to_*` conversion, and `validate_named`.
-/

namespace Conform

open Conform.Text

/-- A text that names no value of its type, with the cause. -/
inductive ValueFault where
  | uri (input : String) (cause : Uri.Fault)
  | tokens (input : String) (cause : TokenList.Fault)
  | timestamp (input : String) (cause : Time.Fault)
deriving DecidableEq

/-- The wording of a fault: the type, the quoted input, the cause. -/
def ValueFault.message : ValueFault → String
  | .uri input cause => "invalid uri " ++ quoted input ++ ": " ++ cause.message
  | .tokens input cause => "invalid token list " ++ quoted input ++ ": " ++ cause.message
  | .timestamp input cause => "invalid timestamp " ++ quoted input ++ ": " ++ cause.message

/-- The URI a text names; blanks around it do not matter. -/
def readUri (s : String) : Except ValueFault Uri :=
  (Uri.read (trim s.toList)).mapError (.uri s)

def readTokens (s : String) : Except ValueFault (List String) :=
  (TokenList.read s.toList).mapError (.tokens s)

/-- The timestamp an RFC 3339 text names. -/
def readTimestamp (p : Time.Precision) (s : String) : Except ValueFault Time.Timestamp :=
  (Time.Timestamp.ofText p s).mapError (.timestamp s)

def countTimestamp (p : Time.Precision) (n : Int64) : Except ValueFault Time.Timestamp :=
  (Time.Timestamp.ofCount p n).mapError (.timestamp (decimalInt n.toInt))

/-- Why a term is not of a type: what `Invalid` says. -/
inductive Mismatch where
  | expected (tag : Tag) (found : Term)
  | notMember (text : String) (members : List Symbol)
  | value (fault : ValueFault)
  | base64 (fault : Base64.Fault)
  | base64Url (fault : Base64.Fault)

def Mismatch.message : Mismatch → String
  | .expected tag found => "expected " ++ tag.text ++ ", got " ++ found.kind ++ " " ++ found.inspect
  | .notMember text members =>
    quoted text ++ " is not one of [" ++ join ", " (members.map Symbol.name) ++ "]"
  | .value fault => fault.message
  | .base64 fault => "invalid base64: " ++ fault.message
  | .base64Url fault => "invalid base64url: " ++ fault.message

namespace Term

/-- The truth value of a term (`to_bool`): a boolean, zero or one, or one of four words. -/
def boolean? : Term → Option Bool
  | .boolean b => some b
  | .integer i => if i = 0 then some false else if i = 1 then some true else none
  | t => t.text?.bind fun s =>
    if s = "0" ∨ s = "false" then some false
    else if s = "1" ∨ s = "true" then some true
    else none

/-- The integer of a term (`to_int`): itself, or read from text that is not an atom. -/
def integer? : Term → Option Int64
  | .integer i => some i
  | .atom _ => none
  | t => t.text?.bind fun s => Tag.readInt64? s.toList

/-- The number of a term (`to_float`): itself, an integer, or read from text that is not an atom. -/
def float? : Term → Option Binary64
  | .float x => some x
  | .integer i => some (Binary64.ofInt i.toInt)
  | .atom _ => none
  | t => t.text?.bind fun s => Binary64.read? s.toList

/-- The string of a term (`to_string`): its text, the digits of an integer, nothing for an empty
list. -/
def string? : Term → Option String
  | .integer i => some (decimalInt i.toInt)
  | .list [] => some ""
  | t => t.text?

/-- The bytes of a term (`to_bytes`): its own, or those of its string. -/
def bytes? : Term → Option (List UInt8)
  | .binary bytes => some bytes
  | t => t.string?.map fun s => Utf8.encode s.toList

/-- The host of a term (`to_host`): its string in ASCII lower case, blanks around it cut off and
none within. -/
def host? (t : Term) : Option String :=
  t.string?.bind fun s =>
    let host := (trim s.toList).map lowerAscii
    if host.isEmpty ∨ host.any isBlank then none else some (String.ofList host)

def isPair : Term → Bool
  | .tuple [_, _] => true
  | _ => false

mutual

/-- A map, or a list of pairs whose first items stand for keys (`is_map_shaped`); the same for what
is nested. -/
def isMapShaped : Term → Bool
  | .map pairs => valuesNest pairs
  | .list items => itemsNest items
  | _ => false

/-- Nested values are maps as well, or nothing that looks like one (`nested_ok`). -/
def nests : Term → Bool
  | .map pairs => valuesNest pairs
  | .list items => if !items.isEmpty && items.all isPair then itemsNest items else true
  | _ => true

def valuesNest : List (Key × Term) → Bool
  | [] => true
  | (_, v) :: ps => nests v && valuesNest ps

/-- All items are pairs with a key, and their values nest. -/
def itemsNest : List Term → Bool
  | [] => true
  | .tuple [k, v] :: ts => k.key?.isSome && nests v && itemsNest ts
  | _ :: _ => false

end

end Term

namespace Tag

/-- The severities from the most to the least verbose, with their levels (`LOG_LEVELS`). -/
def logLevels : List (String × Int64) :=
  [("debug", 8), ("info", 7), ("notice", 6), ("warning", 5), ("error", 4), ("critical", 3),
   ("alert", 2), ("emergency", 1), ("none", 0)]

def lowerByte (b : UInt8) : UInt8 :=
  if 65 ≤ b ∧ b ≤ 90 then b + 32 else b

/-- The integer of a term, if it satisfies a condition: `bounded`, for any test. -/
def integerWhere? (t : Term) (accepts : Int64 → Bool) : Option Term :=
  (t.integer?.filter accepts).map .integer

/-- Whether an integer lies within bounds that may be missing. -/
def within (low high : Option Int64) (i : Int64) : Bool :=
  low.all (fun l => decide (l ≤ i)) && high.all (fun h => decide (i ≤ h))

/-- The term that a raw term stands for under a tag (`validate`). -/
def validate (symbols : SymbolTable) (tag : Tag) (raw : Term) : Except Mismatch Term :=
  let demand (t : Option Term) : Except Mismatch Term :=
    match t with
    | some t => .ok t
    | none => .error (.expected tag raw)
  /- The text of the raw term, read by a reader that has its own faults. -/
  let reading (read : String → Except Mismatch Term) : Except Mismatch Term :=
    match raw.text? with
    | some s => read s
    | none => .error (.expected tag raw)
  match tag with
  | .any => .ok raw
  | .atom =>
    match raw with
    | .atom _ => .ok raw
    | _ => demand (raw.text?.bind fun s => (symbols.existing? s).map .atom)
  | .enumeration members =>
    reading fun s =>
      match members.find? (·.name == s) with
      | some m => .ok (.atom m)
      | none => .error (.notMember s members)
  | .boolean => demand (raw.boolean?.map .boolean)
  | .integer => demand (integerWhere? raw fun _ => true)
  | .nonnegative => demand (integerWhere? raw (within (some 0) none))
  | .positive => demand (integerWhere? raw (within (some 1) none))
  | .range low high => demand (integerWhere? raw (within low high))
  | .port => demand (integerWhere? raw (within (some 0) (some 65535)))
  | .oneOfIntegers members => demand (integerWhere? raw members.contains)
  | .float => demand (raw.float?.map .float)
  | .string => demand (raw.string?.map .string)
  | .binary => demand (raw.bytes?.map .binary)
  | .lowerBinary => demand (raw.bytes?.map fun bytes => .binary (bytes.map lowerByte))
  | .host => demand (raw.host?.map .string)
  | .host6 =>
    match raw.string?.bind fun s => Net.Address.readV6? (trim s.toList) with
    | some a => .ok (.string ("[" ++ a.text ++ "]"))
    | none => demand (raw.host?.map .string)
  | .address =>
    match raw with
    | .address _ => .ok raw
    | _ => demand (raw.text?.bind fun s => (Net.Address.read? (trim s.toList)).map .address)
  | .network =>
    match raw with
    | .network _ => .ok raw
    | _ => demand (raw.text?.bind fun s => (Net.Network.read? (trim s.toList)).map .network)
  | .email => demand ((raw.string?.filter fun s => s.toList.count '@' == 1).map .string)
  | .uri =>
    match raw with
    | .uri _ => .ok raw
    | _ => reading fun s => ((readUri s).map .uri).mapError .value
  | .tokens =>
    reading fun s => ((readTokens s).map fun ts => .list (ts.map .string)).mapError .value
  | .path =>
    demand (raw.text?.bind fun s =>
      (LexicalPath.normalize? s.toList).map fun cs => .string (String.ofList cs))
  | .base64 =>
    reading fun s =>
      ((Base64.decode .standard (Utf8.encode (trim s.toList))).map .binary).mapError .base64
  | .base64Url =>
    reading fun s =>
      let cs := ((trim s.toList).reverse.dropWhile (· == '=')).reverse
      ((Base64.decode .urlSafe (Utf8.encode cs)).map .binary).mapError .base64Url
  | .function arity =>
    match raw with
    | .function f => if f.arity = arity then .ok raw else .error (.expected tag raw)
    | _ => .error (.expected tag raw)
  | .logLevel =>
    match raw with
    | .integer i => if 0 ≤ i ∧ i ≤ 8 then .ok raw else .error (.expected tag raw)
    | _ =>
      demand (raw.text?.bind fun s => (logLevels.find? (·.1 == s)).map fun l => .integer l.2)
  | .map => if raw.isMapShaped then .ok raw else .error (.expected tag raw)
  | .timestamp precision =>
    let made : Except Mismatch Term :=
      match raw with
      | .integer n => ((countTimestamp precision n).map .timestamp).mapError .value
      | _ => reading fun s => ((readTimestamp precision s).map .timestamp).mapError .value
    match raw with
    | .timestamp t => if t.precision = precision then .ok raw else made
    | _ => made

/-- What came of validating against a tag given by its spelling: `Outcome`. -/
inductive Outcome where
  | valid (t : Term)
  | invalid (mismatch : Mismatch)
  /-- The spelling is that of no tag. -/
  | unrecognized (spelling : String)

/-- Validates against a tag given by its spelling, whose symbols are created before
(`validate_named`). -/
def validateNamed (spelling : String) (raw : Term) : Creating Outcome := fun session =>
  match read? spelling.toList with
  | none => (.unrecognized spelling, session)
  | some tag =>
    let session := { session with symbols := session.symbols.internAll (tag.symbols.map (·.name)) }
    match validate session.symbols tag raw with
    | .ok t => (.valid t, session)
    | .error mismatch => (.invalid mismatch, session)

end Tag

end Conform
