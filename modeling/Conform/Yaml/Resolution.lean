import Conform.Integer
import Conform.Yaml.Basic
import Conform.Yaml.Token

/-!
# What scalars stand for

A plain scalar without a tag stands for what it looks like: nothing, a truth value, an integer, a
float, and otherwise a string. Several digits of which the first is a zero are a string. An integer
that takes more than 64 bits but not more than 128 stands for no value at all, a greater one for a
float. The core tags demand a kind.
-/

namespace Conform.Yaml

open Conform.Text

def isNull (cs : List Char) : Bool :=
  ["null", "Null", "NULL", "~"].contains (String.ofList cs)

def readBoolean? (cs : List Char) : Option Bool :=
  let s := String.ofList cs
  if s = "true" ∨ s = "True" ∨ s = "TRUE" then some true
  else if s = "false" ∨ s = "False" ∨ s = "FALSE" then some false
  else none

/-- The scalar without a sign in front, and whether that was a minus. -/
def unsigned : List Char → Bool × List Char
  | '+' :: cs => (false, cs)
  | '-' :: cs => (true, cs)
  | cs => (false, cs)

/-- Several digits of which the first is a zero, a sign in front allowed. -/
def isPaddedNumber (cs : List Char) : Bool :=
  match (unsigned cs).2 with
  | '0' :: c :: cs => (c :: cs).all isDigit
  | _ => false

/-- The number of digits in the base that the first two characters tell. -/
def readMagnitude? : List Char → Option Nat
  | '0' :: 'x' :: cs => readNat? 16 cs
  | '0' :: 'o' :: cs => readNat? 8 cs
  | '0' :: 'b' :: cs => readNat? 2 cs
  | cs => readNat? 10 cs

def readInteger? (cs : List Char) : Option Int :=
  if isPaddedNumber cs then none
  else
    let (negative, body) := unsigned cs
    (readMagnitude? body).map fun n => if negative then -(n : Int) else n

/-- Whether an integer takes up to 64 bits, with or without a sign. -/
def isShort (i : Int) : Bool :=
  leastInt64 ≤ i && i ≤ 0xFFFFFFFFFFFFFFFF

/-- Whether an integer takes up to 128 bits, with or without a sign. -/
def isLong (i : Int) : Bool :=
  -0x80000000000000000000000000000000 ≤ i && i ≤ 0xFFFFFFFFFFFFFFFFFFFFFFFFFFFFFFFF

/-- A float: infinite, not a number, or finite. -/
def readFloat? (cs : List Char) : Option Binary64 :=
  let s := String.ofList cs
  let positive := match cs with
    | '+' :: rest => String.ofList rest
    | _ => s
  if [".inf", ".Inf", ".INF"].contains positive then some (.infinity false)
  else if ["-.inf", "-.Inf", "-.INF"].contains s then some (.infinity true)
  else if [".nan", ".NaN", ".NAN"].contains s then some .nan
  else (Binary64.read? cs).filter (·.isFinite)

/-- The value of a plain scalar without a tag. -/
def ofPlain (cs : List Char) : Option Yaml :=
  if cs.isEmpty || isNull cs then some .null
  else match readBoolean? cs with
    | some b => some (.boolean b)
    | none =>
      match (readInteger? cs).filter isLong with
      | some i => if isShort i then some (.integer i) else none
      | none =>
        match if isPaddedNumber cs then none else readFloat? cs with
        | some x => some (.float x)
        | none => some (.string (String.ofList cs))

/-- The value of a scalar without a tag. -/
def ofUntagged (style : Style) (cs : List Char) : Option Yaml :=
  if style = .plain then ofPlain cs else some (.string (String.ofList cs))

/-- What the tags of the core kinds begin with. -/
def corePrefix : String := "tag:yaml.org,2002:"

/-- The value of a scalar that a tag of another kind than a local one belongs to. -/
def ofCoreTag (tag : List Char) (cs : List Char) : Option Yaml :=
  let tag := String.ofList tag
  if tag = corePrefix ++ "bool" then (readBoolean? cs).map .boolean
  else if tag = corePrefix ++ "int" then ((readInteger? cs).filter isShort).map .integer
  else if tag = corePrefix ++ "float" then (readFloat? cs).map .float
  else if tag = corePrefix ++ "null" then if isNull cs then some .null else none
  else some (.string (String.ofList cs))

end Conform.Yaml
