import BridgeKeeper.Text.Decimal

/-!
An SSH server as its clients meet it: which login it takes, what it grants, and what it sees of them.
A request of a client is answered sooner or later, unless the connection ends.
-/
namespace BridgeKeeper.Ssh

/-- What can go wrong on a connection. -/
inductive Error where
  | connection (reason : String)
  | authentication (reason : String)
  | channel (reason : String)
  | forwarding (reason : String)
  | io (reason : String)
  | protocol (reason : String)
  | timeout (reason : String)
  | disconnected
deriving DecidableEq

def Error.message : Error → String
  | connection reason => "Connection failed: " ++ reason
  | authentication reason => "Authentication failed: " ++ reason
  | channel reason => "Channel error: " ++ reason
  | forwarding reason => "Port forwarding failed: " ++ reason
  | io reason => "IO error: " ++ reason
  | protocol reason => "SSH protocol error: " ++ reason
  | timeout reason => "Timeout: " ++ reason
  | disconnected => "Disconnected"

/-- How a server meets a connection. -/
inductive Behaviour where
  | serves
  /-- Nothing listens. -/
  | refuses
  /-- The connection ends before a session is agreed on. -/
  | hangsUp
  /-- The connection is taken, but nothing is said. -/
  | silent
deriving DecidableEq

structure Server where
  /-- The place of the server as `host:port`. -/
  address : String
  user : String
  password : String
  behaviour : Behaviour := .serves
  /-- Whether every login attempt ends the connection. -/
  dropsLogins : Bool := false
  rejectsForwards : Bool := false
  rejectsCancels : Bool := false
  rejectsChannels : Bool := false
  /-- The port that is chosen where a forward asks for port zero. -/
  allocated : Nat := 40000
  /-- Whether the connection ends before a login can be sent. -/
  leavesEarly : Bool := false
  /-- Whether logins are never answered. -/
  ignoresLogins : Bool := false
  /-- Whether the connection ends once a login is accepted. -/
  dropsSessions : Bool := false
  /-- Whether every request for a forward ends the connection. -/
  dropsForwards : Bool := false
deriving DecidableEq

/-- What a server sees. -/
inductive Sight where
  | login (user password : String)
  | forward (address : String) (port : Nat)
  | cancel (address : String) (port : Nat)
  | channel (host : String) (port : Nat) (originator : String)
  | closed
deriving DecidableEq

/-- The text of a refused connection. -/
def refusal : String := "Connection refused (os error 111)"

/-- The texts of what a session reports: its end, a request that the other side rejects, a channel
that it rejects, and a session that is gone. -/
def ended : String := "Disconnected"
def rejected : String := "The request was rejected by the other party"
def prohibited : String := "Failed to open channel (AdministrativelyProhibited)"
def unreachable : String := "Channel send error"

namespace Server

def accepts (s : Server) (user password : String) : Bool :=
  !s.leavesEarly && !s.ignoresLogins && !s.dropsLogins && s.user = user && s.password = password

/-- Why no session comes to be with this server, if none does. -/
def fault? (s : Server) : Option Error :=
  match s.behaviour with
  | .serves => none
  | .refuses => some (.connection (Error.protocol refusal).message)
  | .hangsUp => some (.connection (Error.protocol ended).message)
  | .silent => some (.timeout ("Connection to " ++ s.address ++ " timed out"))

/-- The error of a login that is not accepted. -/
def loginFailure (s : Server) (user : String) : Error :=
  if s.leavesEarly then .authentication unreachable
  else if s.ignoresLogins then .timeout ("Authentication to " ++ s.address ++ " timed out")
  else .authentication ("Authentication rejected by server for " ++ user ++ "@" ++ s.address)

/-- Whether a forward is granted to a client that is logged in. -/
def grantsForwards (s : Server) : Bool :=
  !s.dropsSessions && !s.dropsForwards && !s.rejectsForwards

/-- The port on which a forward is granted. -/
def grantedPort (s : Server) (port : Nat) : Nat := if port = 0 then s.allocated else port

/-- The port that a client hears of: the chosen one where it asked for port zero, and zero where it
asked for a port. -/
def heardPort (s : Server) (port : Nat) : Nat := if port = 0 then s.allocated else 0

/-- What a service answers that sends back what it gets. -/
def echoed (data : String) : String := "echo:" ++ data

/-- What the service behind a channel answers. -/
def echo (data : String) : String := String.ofList (data.toList.map Char.toUpper)

end Server
end BridgeKeeper.Ssh
