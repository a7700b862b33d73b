import AccountWire.Url.Address
import AccountWire.Url.Percent
import AccountWire.Url.Query

/-!
# URLs

A URL is a scheme, an authority if it has one, a path, and perhaps a query and a fragment.  A path
is either a list of segments or, when no slash follows the scheme, an opaque text.  All parts are
kept as they are written in the end: escaped, and the host in its one form.
-/

namespace AccountWire

/-- The host of a URL. -/
inductive Url.Host where
  /-- A domain, or an opaque name where the scheme does not know domains. -/
  | domain (name : String)
  | ipv4 (address : Nat)
  | ipv6 (pieces : List Nat)
deriving DecidableEq, Repr

/-- Who answers for a URL. -/
structure Url.Authority where
  username : String
  password : Option String
  /-- Absent when empty. -/
  host : Option Url.Host
  /-- Absent when the scheme implies it. -/
  port : Option Nat
deriving DecidableEq, Repr

/-- The path of a URL. -/
inductive Url.Path where
  | opaqueText (text : String)
  | segments (ss : List String)
deriving DecidableEq, Repr

/-- A URL. -/
structure Url where
  scheme : String
  authority : Option Url.Authority
  path : Url.Path
  query : Option String
  fragment : Option String
deriving DecidableEq, Repr

namespace Url

/-- Why a text is no URL. -/
inductive ParseError where
  | relativeWithoutBase
  | emptyHost
  | invalidPort
  | invalidIpv4
  | invalidIpv6
  | invalidDomainCharacter
  | invalidInternationalDomain
deriving DecidableEq, Repr

/-- The words for a parse error. -/
def ParseError.message : ParseError → String
  | .relativeWithoutBase => "relative URL without a base"
  | .emptyHost => "empty host"
  | .invalidPort => "invalid port number"
  | .invalidIpv4 => "invalid IPv4 address"
  | .invalidIpv6 => "invalid IPv6 address"
  | .invalidDomainCharacter => "invalid domain character"
  | .invalidInternationalDomain => "invalid international domain name"

/-- The text of a host. -/
def Host.text : Host → String
  | .domain name => name
  | .ipv4 address => String.ofList (printIpv4 address)
  | .ipv6 pieces => String.ofList ('[' :: printIpv6 pieces ++ [']'])

/-- The text of a path. -/
def Path.text : Path → String
  | .opaqueText text => text
  | .segments ss => String.join (ss.map ("/" ++ ·))

/-- The user name and the password as they stand before the host. -/
def Authority.userinfo (a : Authority) : String :=
  match a.password with
  | some p => a.username ++ ":" ++ p ++ "@"
  | none => if a.username = "" then "" else a.username ++ "@"

/-- The text of an authority, with its slashes. -/
def Authority.text (a : Authority) : String :=
  "//" ++ a.userinfo ++ (a.host.elim "" Host.text) ++
    (a.port.elim "" fun p => ":" ++ toString p)

/-- Whether the URL names a host. -/
def hasHost (u : Url) : Bool := (u.authority.bind (·.host)).isSome

/-- The mark that keeps a path from being read as an authority. -/
def pathGuard (u : Url) : String :=
  match u.authority, u.path with
  | none, .segments ("" :: _ :: _) => "/."
  | _, _ => ""

/-- Path and query: what a request for the URL asks its host for. -/
def target (u : Url) : String := u.path.text ++ u.query.elim "" ("?" ++ ·)

/-- The text of a URL. -/
def text (u : Url) : String :=
  u.scheme ++ ":" ++ u.authority.elim "" Authority.text ++ u.pathGuard ++ u.target ++
    u.fragment.elim "" ("#" ++ ·)

/-- The text that a percent-encoded part stands for, if its octets are UTF-8. -/
def decodePart? (s : String) : Option String :=
  Utf8.toString? (Percent.decode (Utf8.ofString s))

/-- The user name and the password of a URL, if it has either and the name can be read. -/
def credentials? (u : Url) : Option (String × Option String) := do
  let a ← u.authority
  let name ← decodePart? a.username
  let password := a.password.bind decodePart?
  if name ≠ "" ∨ password.isSome then some (name, password) else none

/-- The URL without user name and password. -/
def withoutUserinfo (u : Url) : Url :=
  { u with authority := u.authority.map fun a => { a with username := "", password := none } }

/-- Adds parameters at the end of the query. -/
def addQuery (u : Url) (ps : List Query.Pair) : Url :=
  if ps.isEmpty then u
  else
    let added := Query.encodeString ps
    { u with query := some (match u.query with
      | none | some "" => added
      | some q => q ++ "&" ++ added) }

end Url

end AccountWire
