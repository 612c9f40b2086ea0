import Conform.Binary64.Text
import Conform.Json.Basic

/-!
# JSON values as text

The compact form: no blanks, no line ends. Strings escape what JSON demands and nothing else; floats
have the fewest digits that read back, and those that are not finite, for which JSON has no form,
are null.
-/

namespace Conform.Json

open Conform.Text

def escapeChar (c : Char) : List Char :=
  match c with
  | '"' => ['\\', '"']
  | '\\' => ['\\', '\\']
  | '\n' => ['\\', 'n']
  | '\r' => ['\\', 'r']
  | '\t' => ['\\', 't']
  | '\x08' => ['\\', 'b']
  | '\x0c' => ['\\', 'f']
  | c =>
    if c.toNat < 0x20 then
      let digits := Nat.toDigits 16 c.toNat
      ['\\', 'u'] ++ List.replicate (4 - digits.length) '0' ++ digits
    else [c]

/-- A string in quotes. -/
def stringText (s : String) : String :=
  String.ofList ('"' :: s.toList.flatMap escapeChar ++ ['"'])

mutual

/-- A value in compact form. -/
def text : Json → String
  | .null => "null"
  | .boolean b => if b then "true" else "false"
  | .integer i => decimalInt i
  | .float x => if x.isFinite then Binary64.write .documented x else "null"
  | .string s => stringText s
  | .array items => "[" ++ join "," (itemTexts items) ++ "]"
  | .object members => "\x7b" ++ join "," (memberTexts members) ++ "\x7d"

def itemTexts : List Json → List String
  | [] => []
  | j :: js => text j :: itemTexts js

def memberTexts : List (String × Json) → List String
  | [] => []
  | (k, j) :: ms => (stringText k ++ ":" ++ text j) :: memberTexts ms

end

end Conform.Json
