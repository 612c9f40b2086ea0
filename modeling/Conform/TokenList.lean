import Conform.Text.Blank
import Conform.Text.Quoted
import Conform.Text.Split

/-!
# Token lists

Tokens with commas between them, blanks around each allowed. A token is a nonempty run of the
characters that protocol headers allow in one. A blank text is the empty list; rendering puts a
comma and a space between two tokens, which is the one spelling of a list that reading never needs
to trim more than once.

These are `parse_token_list` and `render_tokens`.
-/

namespace Conform.TokenList

open Conform.Text

/-- Why a text is no token list. -/
inductive Fault where
  /-- Nothing but blanks between two commas. -/
  | emptyToken
  /-- The first character of a token that no token may have. -/
  | badCharacter (c : Char) (token : String)
deriving DecidableEq

def Fault.message : Fault → String
  | .emptyToken => "empty token"
  | .badCharacter c token => "invalid character " ++ quotedChar c ++ " in token " ++ quoted token

def isTokenChar (c : Char) : Bool :=
  isLetter c || isDigit c || "!#$%&'*+-.^_\x60|~".toList.contains c

/-- The token of a piece between commas: not empty, and of characters that `is_tchar` lets pass. -/
def readToken (piece : List Char) : Except Fault String :=
  let token := trim piece
  if token.isEmpty then .error .emptyToken
  else match token.find? (!isTokenChar ·) with
    | some c => .error (.badCharacter c (String.ofList token))
    | none => .ok (String.ofList token)

/-- The tokens of a text (`parse_token_list`). -/
def read (cs : List Char) : Except Fault (List String) :=
  if (trim cs).isEmpty then .ok [] else (pieces ',' cs).mapM readToken

/-- Tokens as text (`render_tokens`). -/
def render (tokens : List String) : String :=
  join ", " tokens

end Conform.TokenList
