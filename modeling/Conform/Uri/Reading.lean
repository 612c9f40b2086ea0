import Conform.Text.Blank
import Conform.Uri.Basic
import Conform.Uri.Path

/-!
# Reading URIs

From text to components, in the order in which they stand: scheme, authority, path, query,
fragment. Line ends and tabs within the text do not count, nor do blanks and controls around it.
Under the schemes of the web any number of slashes, forward or backward, may stand in front of the
authority.

This is `Url::parse`, to which `parse_uri` hands a text.
-/

namespace Conform.Uri

open Conform.Text

/-- The characters that count: no controls and blanks at the ends, no tabs and line ends within. -/
def significant (cs : List Char) : List Char :=
  let low (c : Char) : Bool := decide (c.toNat ≤ 0x20)
  let trimmed := ((cs.dropWhile low).reverse.dropWhile low).reverse
  trimmed.filter fun c => c != '\t' && c != '\n' && c != '\r'

/-- The scheme in lower case, and what follows its colon. -/
def readScheme? (cs : List Char) : Option (List Char × List Char) :=
  let isPart (c : Char) : Bool := isLetter c || isDigit c || c == '+' || c == '-' || c == '.'
  let name := cs.takeWhile isPart
  match name, cs.drop name.length with
  | first :: _, ':' :: rest => if isLetter first then some (name.map lowerAscii, rest) else none
  | _, _ => none

def readTail (family : Family) (cs : List Char) : Option String × Option String :=
  let fragment (cs : List Char) : String := String.ofList (escape fragmentSet cs)
  match cs with
  | '#' :: rest => (none, some (fragment rest))
  | '?' :: rest =>
    let query := rest.takeWhile (· != '#')
    let set := if family.isSpecial then specialQuerySet else querySet
    (some (String.ofList (escape set query)),
     match rest.drop query.length with
     | '#' :: rest => some (fragment rest)
     | _ => none)
  | _ => (none, none)

/-- Splits at the query or fragment. -/
def splitTail (cs : List Char) : List Char × List Char :=
  let path := cs.takeWhile fun c => c != '?' && c != '#'
  (path, cs.drop path.length)

/-- The characters that end an authority. -/
def endsAuthority (family : Family) (c : Char) : Bool :=
  c == '/' || c == '?' || c == '#' || (family.isSpecial && c == '\\')

/-- The user part in front of the last at sign of the authority, if there is one, and what follows
the at sign. -/
def splitUser (family : Family) (cs : List Char) : Option (List Char) × List Char :=
  let authority := cs.takeWhile fun c => !endsAuthority family c
  if authority.contains '@' then
    let after := (authority.reverse.takeWhile (· != '@')).reverse
    let user := authority.take (authority.length - after.length - 1)
    (some user, cs.drop (user.length + 1))
  else (none, cs)

/-- User name and password. A password is there if it is not empty. -/
def readUser (user : List Char) : String × Option String :=
  let encode (cs : List Char) : String := String.ofList (escape userSet cs)
  match cut ':' user with
  | some (name, []) => (encode name, none)
  | some (name, password) => (encode name, some (encode password))
  | none => (encode user, none)

/-- The text of the host: up to a port or the end of the authority; colons in brackets belong to
it. -/
def hostText (family : Family) : Bool → List Char → List Char
  | _, [] => []
  | bracketed, c :: cs =>
    if (c = ':' ∧ !bracketed) ∨ endsAuthority family c then []
    else c :: hostText family (if c = '[' then true else if c = ']' then false else bracketed) cs

/-- The port a scheme has when none is given. -/
def defaultPort? (scheme : String) : Option Nat :=
  if scheme = "http" ∨ scheme = "ws" then some 80
  else if scheme = "https" ∨ scheme = "wss" then some 443
  else if scheme = "ftp" then some 21
  else none

/-- The port after a colon, unless it is missing or the scheme's own, and the rest. -/
def readPort (scheme : String) (cs : List Char) : Except Fault (Option Nat × List Char) :=
  let digits := cs.takeWhile isDigit
  let rest := cs.drop digits.length
  let value := digits.foldl (fun n c => n * 10 + (c.toNat - '0'.toNat)) 0
  let ended := match rest with
    | [] => true
    | c :: _ => c == '/' || c == '\\' || c == '?' || c == '#'
  if 65535 < value ∨ !ended then .error .invalidPort
  else if digits.isEmpty ∨ defaultPort? scheme = some value then .ok (none, rest)
  else .ok (some value, rest)

def readHostAndPort (family : Family) (scheme : String) (cs : List Char) :
    Except Fault (Option Host × Option Nat × List Char) := do
  let text := hostText family false cs
  let rest := cs.drop text.length
  if text.isEmpty then
    if family.isSpecial ∨ rest.head? = some ':' then throw .emptyHost
    return (none, none, rest)
  let host ← if family.isSpecial then Host.readFolded text else Host.readVerbatim text
  match rest with
  | ':' :: rest =>
    let (port, rest) ← readPort scheme rest
    return (some host, port, rest)
  | _ => return (some host, none, rest)

/-- The path behind an authority. Where the scheme has a meaning the path is never empty. -/
def pathBehind (family : Family) (cs : List Char) : List Char :=
  if family.isSpecial then
    match cs with
    | '/' :: rest => (Path.build family ['/'] rest).path
    | '\\' :: rest => (Path.build family ['/'] rest).path
    | _ => (Path.build family ['/'] cs).path
  else
    match cs with
    | [] => []
    | '/' :: rest => (Path.build family ['/'] rest).path
    | _ => (Path.build family ['/'] cs).path

def assemble (family : Family) (scheme : String) (authority : Option Authority) (path : List Char)
    (tail : List Char) : Uri :=
  let (query, fragment) := readTail family tail
  ⟨scheme, authority, String.ofList path, query, fragment⟩

/-- Reads what follows the two slashes in front of an authority. -/
def readAuthority (family : Family) (scheme : String) (cs : List Char) : Except Fault Uri := do
  let (user, rest) := splitUser family cs
  if user = some [] then
    match rest with
    | [] => pure ()
    | c :: _ => if endsAuthority family c then throw .emptyHost
  let (username, password) := readUser (user.getD [])
  let (host, port, rest) ← readHostAndPort family scheme rest
  if host.isNone ∧ !(username.isEmpty && password.isNone) then throw .emptyHost
  let (path, tail) := splitTail rest
  let authority := some ⟨username, password, host, port⟩
  return assemble family scheme authority (pathBehind family path) tail

/-- The authority of a local file: no user, no port, perhaps a host. -/
def fileAuthority (host : Option Host) : Option Authority :=
  some ⟨"", none, host, none⟩

/-- Reads what follows the two slashes of a local file. The local host is no host, and neither is a
drive letter; a drive letter behind a host takes its place. -/
def readFileHost (cs : List Char) : Except Fault Uri := do
  let text := cs.takeWhile fun c => !endsAuthority .file c
  let (path, tail) := splitTail (cs.drop text.length)
  let hostless (path : List Char) : Uri :=
    assemble .file "file" (fileAuthority none) (Path.build .file ['/'] path).path tail
  if Path.isDrive text then return hostless (text ++ path)
  if text.isEmpty then return hostless path
  let host ← Host.readFolded text
  if host = .domain "localhost" then return hostless path
  let body := match path with
    | '/' :: rest => rest
    | '\\' :: rest => rest
    | _ => path
  let draft := Path.build .file ['/'] body
  let authority := fileAuthority (if draft.keepsHost then some host else none)
  return assemble .file "file" authority draft.path tail

def isSlash (c : Char) : Bool :=
  c == '/' || c == '\\'

def readFile (cs : List Char) : Except Fault Uri :=
  match cs with
  | a :: b :: rest =>
    if isSlash a && isSlash b then readFileHost rest
    else
      let (path, tail) := splitTail cs
      let start := if isSlash a then [] else ['/']
      .ok (assemble .file "file" (fileAuthority none) (Path.build .file start path).path tail)
  | _ =>
    let (path, tail) := splitTail cs
    .ok (assemble .file "file" (fileAuthority none) (Path.build .file ['/'] path).path tail)

def readPlain (scheme : String) (cs : List Char) : Except Fault Uri :=
  match cs with
  | '/' :: '/' :: rest => readAuthority .plain scheme rest
  | '/' :: rest =>
    let (path, tail) := splitTail rest
    .ok (assemble .plain scheme none (Path.build .plain ['/'] path).path tail)
  | _ =>
    let (path, tail) := splitTail cs
    .ok (assemble .plain scheme none (escape [] path) tail)

/-- The URI a text writes: `Url::parse`, by way of `parse_uri`. -/
def read (cs : List Char) : Except Fault Uri :=
  match readScheme? (significant cs) with
  | none => .error .relative
  | some (name, rest) =>
    let scheme := String.ofList name
    match Family.ofScheme scheme with
    | .file => readFile rest
    | .web => readAuthority .web scheme (rest.dropWhile isSlash)
    | .plain => readPlain scheme rest

end Conform.Uri
