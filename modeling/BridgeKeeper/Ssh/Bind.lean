import BridgeKeeper.Ssh.Address
import BridgeKeeper.Ssh.Server

/-!
Addresses to listen at, written `host:port`.
-/
namespace BridgeKeeper.Ssh

structure BindAddress where
  address : Address
  port : UInt16
deriving DecidableEq

/-- Why it is not possible to listen at an address. -/
inductive BindFault where
  | noPort
  | invalidPort
  | nulInHost
  /-- No host can have the name. -/
  | unknownHost
  /-- The name service has to be asked for the name, and does not answer. -/
  | unresolvedHost
  | notLocal
  | inUse
  | forbidden
  /-- The system has another objection. -/
  | refused (reason : String)
  /-- The system does not tell which port it chose. -/
  | unnamed (reason : String)
deriving DecidableEq

/-- The error for an address as it was written. -/
def BindFault.error (address : String) (f : BindFault) : Error :=
  let failed (reason : String) := Error.forwarding ("Failed to bind to " ++ address ++ ": " ++ reason)
  let unresolved (reason : String) := failed ("failed to lookup address information: " ++ reason)
  match f with
  | noPort => failed "invalid socket address"
  | invalidPort => failed "invalid port value"
  | nulInHost => failed "file name contained an unexpected NUL byte"
  | unknownHost => unresolved "Name or service not known"
  | unresolvedHost => unresolved "Temporary failure in name resolution"
  | notLocal => failed "Cannot assign requested address (os error 99)"
  | inUse => .forwarding ("Port already in use: " ++ address)
  | forbidden => .forwarding ("Permission denied binding to " ++ address ++
      ". Ports below 1024 require elevated privileges.")
  | refused reason => failed reason
  | unnamed reason => .forwarding ("Failed to get bound address: " ++ reason)

namespace BindAddress

/-- The parts before and behind the last colon. -/
def splitPort (s : List Char) : Option (List Char × List Char) :=
  match s.reverse.span (· != ':') with
  | (port, _ :: host) => some (host.reverse, port.reverse)
  | (_, []) => none

/-- The address of the host in front of a port. One in brackets is written as groups, before a port
that is plain digits. -/
def hostAddress? (host port : List Char) : Option Address :=
  match host with
  | '[' :: r =>
    if r.getLast? = some ']' ∧ port.all Char.isDigit then (Url.parseIpv6? r.dropLast).map .v6 else none
  | _ => Address.ofHost? host

/-- Reads an address of this machine. -/
def parse (s : List Char) : Except BindFault BindAddress :=
  match splitPort s with
  | none => .error .noPort
  | some (host, port) =>
    match Text.word16? port with
    | none => .error .invalidPort
    | some number =>
      if host.contains '\x00' then .error .nulInHost
      else
        match hostAddress? host port with
        | none => .error (if Address.isName host then .unresolvedHost else .unknownHost)
        | some a => if a.isBindable then .ok ⟨a, number⟩ else .error .notLocal

end BindAddress
end BridgeKeeper.Ssh
