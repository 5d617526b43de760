import BridgeKeeper.Url.Host

/-!
Addresses of the internet protocol as a machine meets them: which hosts it knows the address of, which
addresses it has itself, and at which two of them listeners are in one another's way.
-/
namespace BridgeKeeper.Ssh

inductive Address where
  | v4 (number : Nat)
  | v6 (pieces : List Nat)
deriving DecidableEq

namespace Address

/-- 127.0.0.1, where a machine reaches itself. -/
def loopback : Address := .v4 0x7F000001

/-- The address that a host is written as: numbers between points, of which each may be decimal,
octal or hexadecimal and the last fills what is left, or groups between colons. -/
def ofNumbers? (host : List Char) : Option Address :=
  let isPart (p : List Char) : Bool := p != [] && p != ['0', 'x'] && p != ['0', 'X']
  match Url.parseIpv6? host with
  | some pieces => some (.v6 pieces)
  | none =>
    if (Url.splitOn (· == '.') host).all isPart then ((Url.parseIpv4 host).toOption).map .v4 else none

/-- The address of a host. The one name that every machine knows is `localhost`, in any case. -/
def ofHost? (host : List Char) : Option Address :=
  if host.map Char.toLower = "localhost".toList then some loopback else ofNumbers? host

/-- A name that the name service is asked for: labels of letters, digits, hyphens and underscores, none
with a hyphen in front. -/
def isName (host : List Char) : Bool :=
  let isLabel (p : List Char) : Bool :=
    p != [] && p.length ≤ 63 && p.head? != some '-' &&
      p.all fun c => c.isAlphanum || c == '-' || c == '_'
  let labels := Url.splitOn (· == '.') host
  host == ['.'] ||
    host.length ≤ 254 && (if labels.getLast? = some [] then labels.dropLast else labels).all isLabel &&
      host != []

/-- An address that stands for all of a machine. -/
def isAny : Address → Bool
  | v4 n => n == 0
  | v6 pieces => pieces.all (· == 0)

/-- An address with which a machine reaches itself. -/
def isLoopback : Address → Bool
  | v4 n => n / 0x1000000 == 127
  | v6 pieces => pieces == [0, 0, 0, 0, 0, 0, 0, 1]

/-- An address that a machine can listen at: its own, and those of groups, at which nothing arrives. -/
def isBindable (a : Address) : Bool :=
  a.isAny || a.isLoopback ||
    match a with
    | v4 n => n / 0x10000000 == 14 || n == 0xFFFFFFFF
    | v6 _ => false

/-- Whether listeners at two addresses are in one another's way at the same port. -/
def overlaps : Address → Address → Bool
  | v4 a, v4 b => a == b || (v4 a).isAny || (v4 b).isAny
  | v6 a, v6 b => a == b || (v6 a).isAny || (v6 b).isAny
  | v4 _, v6 b => (v6 b).isAny
  | v6 a, v4 _ => (v6 a).isAny

/-- Whether a connection to an address of this machine arrives at 127.0.0.1. -/
def meetsLoopback (a : Address) : Bool :=
  a == loopback || a == .v4 0

end Address
end BridgeKeeper.Ssh
