import Conform.Text.Quoted
import Conform.Uri.Host

/-!
# URIs

An absolute URI by its components, each in the form in which it is written. Two URIs are the same
and are ordered by their text.

This is the `Url` that a `Uri` holds.
-/

namespace Conform

/-- Who answers for a URI: a user, a host and a port. -/
structure Uri.Authority where
  username : String
  password : Option String
  host : Option Uri.Host
  port : Option Nat
deriving DecidableEq

/-- An absolute URI. -/
structure Uri where
  scheme : String
  authority : Option Uri.Authority
  path : String
  query : Option String
  fragment : Option String
deriving DecidableEq

namespace Uri

open Conform.Text Conform.Net

/-- User, host and port as they stand in a URI. -/
def Authority.text (a : Authority) : String :=
  let password := match a.password with
    | some p => ":" ++ p
    | none => ""
  let user := if a.username.isEmpty && a.password.isNone then "" else a.username ++ password ++ "@"
  let host := match a.host with
    | some h => h.text
    | none => ""
  let port := match a.port with
    | some p => ":" ++ decimal p
    | none => ""
  user ++ host ++ port

/-- A component that may be missing, after the character that introduces it. -/
def introduced (mark : String) : Option String → String
  | some s => mark ++ s
  | none => ""

/-- The URI as text. A path that would read as an authority has a segment of one dot in front. -/
def text (u : Uri) : String :=
  let authority := match u.authority with
    | some a => "//" ++ a.text
    | none => if ['/', '/'].isPrefixOf u.path.toList then "/." else ""
  u.scheme ++ ":" ++ authority ++ u.path ++ introduced "?" u.query ++ introduced "#" u.fragment

/-- The host, if there is one (`Uri::host`). -/
def host? (u : Uri) : Option Host :=
  u.authority.bind (·.host)

/-- By text. -/
instance : Ord Uri where
  compare u v := compare u.text v.text

/-- Whether the path has no hierarchy. -/
def isOpaquePath (u : Uri) : Bool :=
  u.authority.isNone && u.path.toList.head? != some '/'

/-- A component that may be missing, as quoted values show it. -/
def inspectOption (o : Option String) : String :=
  match o with
  | some s => "Some(" ++ s ++ ")"
  | none => "None"

def Host.inspect : Host → String
  | .domain name => "Domain(" ++ quoted name ++ ")"
  | .address a@(.v4 _) => "Ipv4(" ++ a.text ++ ")"
  | .address a@(.v6 _) => "Ipv6(" ++ a.text ++ ")"

def inspect (u : Uri) : String :=
  let field (name value : String) : String := name ++ ": " ++ value
  let username := match u.authority with
    | some a => a.username
    | none => ""
  "Uri(Url \x7b " ++ join ", " [
    field "scheme" (quoted u.scheme),
    field "cannot_be_a_base" (if u.isOpaquePath then "true" else "false"),
    field "username" (quoted username),
    field "password" (inspectOption (u.authority.bind (·.password) |>.map quoted)),
    field "host" (inspectOption (u.host?.map Host.inspect)),
    field "port" (inspectOption (u.authority.bind (·.port) |>.map decimal)),
    field "path" (quoted u.path),
    field "query" (inspectOption (u.query.map quoted)),
    field "fragment" (inspectOption (u.fragment.map quoted))] ++ " \x7d)"

end Uri

end Conform
