import BridgeKeeper.Text.Percent

/-!
URLs as the living URL standard takes them apart. Every part is kept percent-encoded, as the
serialized form shows it. A URL with two slashes behind its scheme has a host, which may be the
empty name; its path is a list of segments unless it is opaque.
-/
namespace BridgeKeeper.Url

inductive ParseError where
  | relativeWithoutBase
  | emptyHost
  | invalidPort
  | invalidIpv4
  | invalidIpv6
  | invalidInternationalName
  | invalidDomainCharacter
deriving DecidableEq

def ParseError.message : ParseError → String
  | relativeWithoutBase => "relative URL without a base"
  | emptyHost => "empty host"
  | invalidPort => "invalid port number"
  | invalidIpv4 => "invalid IPv4 address"
  | invalidIpv6 => "invalid IPv6 address"
  | invalidInternationalName => "invalid international domain name"
  | invalidDomainCharacter => "invalid domain character"

/-- The schemes that the standard names, `file`, and all others. -/
inductive SchemeKind where
  | web
  | file
  | other
deriving DecidableEq

def schemeKind (scheme : List Char) : SchemeKind :=
  if scheme = "file".toList then .file
  else if ["http", "https", "ws", "wss", "ftp"].any fun s => s.toList = scheme then .web
  else .other

/-- Web and file URLs: a backslash is a slash in them, and their path is never empty. -/
def SchemeKind.isSpecial (k : SchemeKind) : Bool := k != .other

/-- The port that is left out of the serialized form. -/
def defaultPort? (scheme : List Char) : Option Nat :=
  if scheme = "http".toList || scheme = "ws".toList then some 80
  else if scheme = "https".toList || scheme = "wss".toList then some 443
  else if scheme = "ftp".toList then some 21
  else none

inductive Host where
  | name (s : List Char)
  | ipv4 (address : Nat)
  | ipv6 (pieces : List Nat)
deriving DecidableEq

inductive Path where
  | opaquePath (s : List Char)
  | segments (parts : List (List Char))
deriving DecidableEq

end Url

structure Url where
  scheme : List Char
  username : List Char
  password : List Char
  host : Option Url.Host
  port : Option Nat
  path : Url.Path
  query : Option (List Char)
  fragment : Option (List Char)
deriving DecidableEq

namespace Url

/-- A URL whose path is opaque cannot have segments appended. -/
def hasOpaquePath (u : Url) : Bool :=
  match u.path with
  | .opaquePath _ => true
  | .segments _ => false

def kind (u : Url) : SchemeKind := schemeKind u.scheme

end Url
end BridgeKeeper
