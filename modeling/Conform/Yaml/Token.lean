import Conform.Yaml.Scalar.Block
import Conform.Yaml.Scalar.Plain
import Conform.Yaml.Scalar.Quoted
import Conform.Text.Utf8

/-!
# YAML tokens

The smallest parts of a YAML text that mean something on their own. Some stand for characters, such
as brackets; others for the indentation, such as the start and the end of a block. This module holds
the tokens and the readers of those that a few characters decide: anchors, tags and directives.
-/

namespace Conform.Yaml

open Conform.Text

/-- How a scalar is written. -/
inductive Style where
  | plain
  | quoted
  | literal
  | folded
deriving DecidableEq

/-- A part of a YAML text. -/
inductive Token where
  /-- The version that a directive names. -/
  | version (major minor : Nat)
  /-- The prefix that a directive gives to a tag handle. -/
  | tagPrefix (handle start : List Char)
  | documentStart
  | documentEnd
  | blockSequenceStart
  | blockMappingStart
  | blockEnd
  | flowSequenceStart
  | flowSequenceEnd
  | flowMappingStart
  | flowMappingEnd
  | blockEntry
  | flowEntry
  | key
  | value
  | alias (name : List Char)
  | anchor (name : List Char)
  | tag (handle suffix : List Char)
  | scalar (style : Style) (text : List Char)
deriving DecidableEq

namespace Token

/-! ## Anchors and aliases -/

/-- The name of an anchor or alias behind its sign. -/
def readName (c : Cursor) : Option (List Char × Cursor) :=
  let (name, c) := c.takeWhile isNameChar
  let ended := c.peek?.all fun ch => isBlankOrBreak ch || "?:,]\x7d%@\x60".toList.contains ch
  if !name.isEmpty && ended then some (name, c) else none

/-! ## Tags -/

/-- The characters of tags, apart from escapes. Some are allowed in full addresses only. -/
def isTagChar (full : Bool) (c : Char) : Bool :=
  isNameChar c || ";/?:@&=+$.!~*'()".toList.contains c || (full && ",[]".toList.contains c)

/-- How many bytes a character takes whose first byte is given. -/
def byteCount? (n : Nat) : Option Nat :=
  if n < 0x80 then some 1
  else if 0xC0 ≤ n ∧ n < 0xE0 then some 2
  else if 0xE0 ≤ n ∧ n < 0xF0 then some 3
  else if 0xF0 ≤ n ∧ n < 0xF8 then some 4
  else none

/-- A byte written as a percent sign and two digits, and what follows it. -/
def readByte? : List Char → Option (Nat × List Char)
  | '%' :: a :: b :: cs => (readNat? 16 [a, b]).map (·, cs)
  | _ => none

def readBytes? : Nat → List Char → Option (List Nat × List Char)
  | 0, cs => some ([], cs)
  | n + 1, cs => do
    let (b, cs) ← readByte? cs
    let (bs, cs) ← readBytes? n cs
    return (b :: bs, cs)

/-- A character whose bytes are escaped, and what follows it. -/
def readEscaped? (cs : List Char) : Option (List Char × List Char) := do
  let (b, _) ← readByte? cs
  let count ← byteCount? b
  let (bytes, rest) ← readBytes? count cs
  let text ← Utf8.decode (bytes.map UInt8.ofNat)
  return (text, rest)

/-- The characters of a tag, and what follows them. -/
def readTagChars (full : Bool) : Nat → List Char → Option (List Char × List Char)
  | 0, cs => some ([], cs)
  | fuel + 1, cs =>
    match cs with
    | [] => some ([], [])
    | c :: rest =>
      if c = '%' then do
        let (text, rest) ← readEscaped? cs
        let (more, rest) ← readTagChars full fuel rest
        return (text ++ more, rest)
      else if isTagChar full c then
        (readTagChars full fuel rest).map fun (more, rest) => (c :: more, rest)
      else some ([], cs)

def readAddress (full : Bool) (c : Cursor) : Option (List Char × Cursor) :=
  (readTagChars full c.rest.length c.rest).map fun (cs, rest) => (cs, c.upTo rest)

/-- A handle: an exclamation mark, perhaps a name and another mark. -/
def readHandle (c : Cursor) : Option (List Char × Cursor) :=
  if c.sees '!' then
    let (name, c) := (c.advance 1).takeWhile isNameChar
    if c.sees '!' then some ('!' :: name ++ ['!'], c.advance 1) else some ('!' :: name, c)
  else none

/-- The tag at a place: in full between angle brackets, behind a handle, or local. The lone
exclamation mark has no handle. -/
def readTag (inFlow : Bool) (c : Cursor) : Option (Token × Cursor) := do
  let (token, c) ←
    if (c.advance 1).sees '<' then do
      let (suffix, c) ← readAddress true (c.advance 2)
      guard (!suffix.isEmpty && c.sees '>')
      pure (Token.tag [] suffix, c.advance 1)
    else do
      let (handle, c) ← readHandle c
      let (suffix, c) ← readAddress false c
      if 1 < handle.length ∧ handle.getLast? = some '!' then
        guard (!suffix.isEmpty)
        pure (Token.tag handle suffix, c)
      else
        let suffix := handle.tail ++ suffix
        pure (if suffix.isEmpty then Token.tag [] ['!'] else Token.tag ['!'] suffix, c)
  guard (c.peek?.all fun ch => isBlankOrBreak ch || (inFlow && ch = ','))
  return (token, c)

/-! ## Directives -/

def readNumber (c : Cursor) : Option (Nat × Cursor) :=
  let (digits, c) := c.takeWhile isDigit
  if digits.length ≤ 9 then (readNat? 10 digits).map (·, c) else none

/-- The version behind the name of its directive. -/
def readVersion (c : Cursor) : Option (Token × Cursor) := do
  let (major, c) ← readNumber (c.skipWhile isBlank)
  guard (c.sees '.')
  let (minor, c) ← readNumber (c.advance 1)
  return (.version major minor, c)

/-- The handle and the prefix behind the name of their directive. -/
def readTagPrefix (c : Cursor) : Option (Token × Cursor) := do
  let (handle, c) ← readHandle (c.skipWhile isBlank)
  guard (handle.getLast? = some '!' && c.seesAny isBlank)
  let (start, c) ← readAddress true (c.skipWhile isBlank)
  guard (!start.isEmpty && c.wordEndsAt 0)
  return (.tagPrefix handle start, c)

/-- The directive at a place, which fills its line. -/
def readDirective (c : Cursor) : Option (Token × Cursor) := do
  let (name, c) := (c.advance 1).takeWhile isNameChar
  guard (c.wordEndsAt 0)
  let (token, c) ←
    if name = "YAML".toList then readVersion c
    else if name = "TAG".toList then readTagPrefix c
    else none
  let c ← c.lineEnd?
  return (token, c)

end Token

end Conform.Yaml
