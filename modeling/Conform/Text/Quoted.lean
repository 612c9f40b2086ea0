import Conform.Text.Digits
import Conform.Text.Hidden

/-!
# Quoted text

A text between quotes, unambiguous and on one line: the quote itself, the backslash and the common
controls have an escape of two characters, every other character without a glyph of its own is
written `\u{...}` with its number in hexadecimal.
-/

namespace Conform.Text

/-- The form of a character between quotes of the given kind: `escape_debug`. -/
def quoteChar (quote : Char) (c : Char) : List Char :=
  if c = quote then ['\\', quote]
  else match c with
    | '\\' => ['\\', '\\']
    | '\n' => ['\\', 'n']
    | '\r' => ['\\', 'r']
    | '\t' => ['\\', 't']
    | '\x00' => ['\\', '0']
    | c => if isHidden c then "\\u\x7b".toList ++ Nat.toDigits 16 c.toNat ++ ['\x7d'] else [c]

/-- A text between quotes of the given kind. -/
def quoteWith (quote : Char) (cs : List Char) : List Char :=
  quote :: cs.flatMap (quoteChar quote) ++ [quote]

def quoted (s : String) : String :=
  String.ofList (quoteWith '"' s.toList)

def quotedChar (c : Char) : String :=
  String.ofList (quoteWith '\'' [c])

end Conform.Text
