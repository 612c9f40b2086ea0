import Conform.Json.Literal
import Conform.Text.Split

/-!
# Reading JSON

A text is cut into tokens, the tokens are gathered into a tree, and the tree is made into a value.
The tree, `Raw`, is the document as it is written: keys may come twice, literals are not worth
anything yet, and a string may hold half of a surrogate pair. This is all the reader of a record
checks of the fields it does not know. Making a value of a tree refuses what has no value: lone
surrogates, numbers that are too great, and more than 127 arrays and objects inside each other.
-/

namespace Conform.Json

open Conform.Text

/-- A part of a string: a character, or a UTF-16 code unit given by its number. -/
inductive Piece where
  | char (c : Char)
  | codeUnit (n : Nat)

/-- The text of a string's parts; surrogates have to come in pairs. -/
def Piece.text? : List Piece → Option (List Char)
  | [] => some []
  | .char c :: rest => (text? rest).map (c :: ·)
  | .codeUnit n :: rest =>
    if n < 0xD800 ∨ 0xE000 ≤ n then (text? rest).map (Char.ofNat n :: ·)
    else if 0xDC00 ≤ n then none
    else match rest with
      | .codeUnit m :: rest =>
        if 0xDC00 ≤ m ∧ m < 0xE000 then
          (text? rest).map (Char.ofNat (0x10000 + (n - 0xD800) * 0x400 + (m - 0xDC00)) :: ·)
        else none
      | _ => none

/-- A document as it is written. -/
inductive Raw where
  | null
  | boolean (b : Bool)
  | number (literal : Literal)
  | string (pieces : List Piece)
  | array (items : List Raw)
  | object (members : List (List Piece × Raw))

instance : Inhabited Raw := ⟨.null⟩

/-! ## Tokens -/

/-- The smallest parts of a document. -/
inductive Token where
  | openArray
  | closeArray
  | openObject
  | closeObject
  | comma
  | colon
  | scalar (r : Raw)

/-- The character of an escape of two characters. -/
def escaped? : Char → Option Char
  | '"' => some '"'
  | '\\' => some '\\'
  | '/' => some '/'
  | 'b' => some '\x08'
  | 'f' => some '\x0c'
  | 'n' => some '\n'
  | 'r' => some '\r'
  | 't' => some '\t'
  | _ => none

/-- The parts of a string behind its opening quote, and what follows it. -/
def readString : List Char → Option (List Piece × List Char)
  | [] => none
  | '"' :: cs => some ([], cs)
  | '\\' :: 'u' :: a :: b :: c :: d :: cs => do
    let n ← readNat? 16 [a, b, c, d]
    let (pieces, rest) ← readString cs
    return (.codeUnit n :: pieces, rest)
  | '\\' :: c :: cs => do
    let e ← escaped? c
    let (pieces, rest) ← readString cs
    return (.char e :: pieces, rest)
  | c :: cs =>
    if c.toNat < 0x20 then none
    else (readString cs).map fun (pieces, rest) => (.char c :: pieces, rest)

/-- The digits behind a point, if there is one, and what follows them. -/
def readFraction : List Char → Option (Option (List Char) × List Char)
  | '.' :: cs =>
    let digits := cs.takeWhile isDigit
    if digits.isEmpty then none else some (some digits, cs.dropWhile isDigit)
  | cs => some (none, cs)

def readExponent : List Char → Option (Option Int × List Char)
  | [] => some (none, [])
  | c :: cs =>
    if c = 'e' ∨ c = 'E' then
      let (negative, cs) := match cs with
        | '+' :: ds => (false, ds)
        | '-' :: ds => (true, ds)
        | ds => (false, ds)
      (readNat? 10 (cs.takeWhile isDigit)).map fun n =>
        (some (if negative then -(n : Int) else n), cs.dropWhile isDigit)
    else some (none, c :: cs)

/-- A number literal and what follows it. A zero in front stands alone. -/
def readLiteral (cs : List Char) : Option (Literal × List Char) := do
  let (negative, cs) := match cs with
    | '-' :: ds => (true, ds)
    | ds => (false, ds)
  let whole := cs.takeWhile isDigit
  guard (!whole.isEmpty && (whole.head? != some '0' || whole.length == 1))
  let (fraction, cs) ← readFraction (cs.dropWhile isDigit)
  let (exponent, cs) ← readExponent cs
  return (⟨negative, whole, fraction, exponent⟩, cs)

def readToken (c : Char) (cs : List Char) : Option (Token × List Char) :=
  match c with
  | '[' => some (.openArray, cs)
  | ']' => some (.closeArray, cs)
  | '\x7b' => some (.openObject, cs)
  | '\x7d' => some (.closeObject, cs)
  | ',' => some (.comma, cs)
  | ':' => some (.colon, cs)
  | '"' => (readString cs).map fun (pieces, rest) => (.scalar (.string pieces), rest)
  | 'n' => ("ull".toList.isPrefixOf? cs).map (.scalar .null, ·)
  | 't' => ("rue".toList.isPrefixOf? cs).map (.scalar (.boolean true), ·)
  | 'f' => ("alse".toList.isPrefixOf? cs).map (.scalar (.boolean false), ·)
  | c => (readLiteral (c :: cs)).map fun (l, rest) => (.scalar (.number l), rest)

/-- The tokens of a text. Every token takes a character at least, so the length of the text is
enough fuel. -/
def readTokens : Nat → List Char → Option (List Token)
  | _, [] => some []
  | 0, _ => none
  | fuel + 1, c :: cs =>
    if [' ', '\t', '\n', '\r'].contains c then readTokens fuel cs
    else do
      let (token, rest) ← readToken c cs
      let tokens ← readTokens fuel rest
      return token :: tokens

/-! ## Trees -/

mutual

def gatherValue : Nat → List Token → Option (Raw × List Token)
  | 0, _ => none
  | _ + 1, [] => none
  | fuel + 1, t :: ts =>
    match t with
    | .scalar r => some (r, ts)
    | .openArray =>
      match ts with
      | .closeArray :: rest => some (.array [], rest)
      | ts => (gatherItems fuel ts).map fun (items, rest) => (.array items, rest)
    | .openObject =>
      match ts with
      | .closeObject :: rest => some (.object [], rest)
      | ts => (gatherMembers fuel ts).map fun (members, rest) => (.object members, rest)
    | _ => none

/-- The items of an array, at least one, and the tokens that follow its end. -/
def gatherItems : Nat → List Token → Option (List Raw × List Token)
  | 0, _ => none
  | fuel + 1, ts => do
    let (item, ts) ← gatherValue fuel ts
    match ts with
    | .comma :: ts =>
      let (items, rest) ← gatherItems fuel ts
      return (item :: items, rest)
    | .closeArray :: rest => return ([item], rest)
    | _ => none

/-- The members of an object, at least one, and the tokens that follow its end. -/
def gatherMembers : Nat → List Token → Option (List (List Piece × Raw) × List Token)
  | fuel + 1, .scalar (.string key) :: .colon :: ts => do
    let (value, ts) ← gatherValue fuel ts
    match ts with
    | .comma :: ts =>
      let (members, rest) ← gatherMembers fuel ts
      return ((key, value) :: members, rest)
    | .closeObject :: rest => return ([(key, value)], rest)
    | _ => none
  | _, _ => none

end

/-- The document that a text holds. No token is looked at by more than two calls inside each other,
which bounds the fuel. -/
def Raw.read? (cs : List Char) : Option Raw := do
  let tokens ← readTokens cs.length cs
  let (tree, rest) ← gatherValue (2 * tokens.length + 1) tokens
  guard rest.isEmpty
  return tree

/-! ## Values -/

namespace Raw

mutual

/-- The value of a tree with at most so many arrays and objects inside each other. -/
def value? : Nat → Raw → Option Json
  | _, .null => some .null
  | _, .boolean b => some (.boolean b)
  | _, .number l => l.value?
  | _, .string pieces => (Piece.text? pieces).map fun cs => .string (String.ofList cs)
  | 0, .array _ => none
  | depth + 1, .array items => (values? depth items).map .array
  | 0, .object _ => none
  | depth + 1, .object members => (memberValues? depth members).map fun ms => .object (gather ms)

def values? : Nat → List Raw → Option (List Json)
  | _, [] => some []
  | depth, r :: rs => do
    let v ← value? depth r
    let vs ← values? depth rs
    return v :: vs

def memberValues? : Nat → List (List Piece × Raw) → Option (List (String × Json))
  | _, [] => some []
  | depth, (k, r) :: ms => do
    let cs ← Piece.text? k
    let v ← value? depth r
    let vs ← memberValues? depth ms
    return (String.ofList cs, v) :: vs

end

end Raw

/-- How many arrays and objects a document may have inside each other. -/
def greatestDepth : Nat := 127

/-- The value that a text stands for. -/
def read? (s : String) : Option Json :=
  (Raw.read? s.toList).bind (Raw.value? greatestDepth)

end Conform.Json
