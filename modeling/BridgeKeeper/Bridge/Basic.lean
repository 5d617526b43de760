import BridgeKeeper.Credentials
import BridgeKeeper.Host.Record
import BridgeKeeper.Ssh.Server

/-!
Bridges: one per host identity, each with at most one session. Entries, sessions, calls of the
transport and tasks are numbered from zero on in the order in which they come to be.
-/
namespace BridgeKeeper.Bridge

abbrev EntryId := Nat
abbrev SessionId := Nat
abbrev CallId := Nat
abbrev TaskId := Nat

inductive Status where
  | connecting
  | connected
  | disconnected
deriving DecidableEq

/-- The name of a state in diagnostic messages. -/
def Status.name : Status → String
  | connecting => "Connecting"
  | connected => "Connected"
  | disconnected => "Disconnected"

/-- What to open where no bridge is yet. -/
structure Request where
  credentials : Credentials
  rule : Option Forward.Rule
deriving DecidableEq

namespace Request

/-- The request with the first rule of the credentials. -/
def ofCredentials (c : Credentials) : Request := ⟨c, c.firstRule?⟩

/-- Checks the credentials and then the rule. -/
def check (r : Request) : Except Credentials.Fault Unit :=
  match r.credentials.check with
  | .error fault => .error fault
  | .ok () =>
    match r.rule with
    | none => .ok ()
    | some rule => rule.check.mapError .rule

end Request

inductive Error where
  | notFound (identity : Identity)
  | openFailure (identity : Identity) (reason : String)
  | invalidCredentials (fault : Credentials.Fault)
deriving DecidableEq

def Error.message : Error → String
  | notFound identity => "No matching host: " ++ identity.name
  | openFailure identity reason => "Failed to open bridge '" ++ identity.name ++ "': " ++ reason
  | invalidCredentials fault => "Invalid credentials: " ++ fault.message

/-- A bridge. The session is there from when it is connected on, the failure from when its open
failed on. -/
structure Entry where
  identity : Identity
  target : String
  rule : Option Forward.Rule
  status : Status
  session : Option SessionId
  failure : Option String
deriving DecidableEq

namespace Entry

/-- A bridge that is about to be opened. -/
def placeholder (i : Identity) (r : Request) : Entry :=
  ⟨i, r.credentials.target, r.rule, .connecting, none, none⟩

/-- What stands at a number that no bridge has yet. -/
def blank : Entry := ⟨⟨""⟩, "", none, .disconnected, none, none⟩

/-- Identity, target and state, for diagnostic messages. -/
def debug (e : Entry) : String :=
  "BridgeEntry \x7b identity: HostIdentity(" ++ Text.quoted e.identity.name ++ "), target: " ++
    Text.quoted e.target ++ ", state: " ++ e.status.name ++ " \x7d"

/-- The error for those who waited for a bridge that did not come to be. -/
def openFailure (e : Entry) : Error :=
  .openFailure e.identity (e.failure.getD "session closed")

end Entry

/-- A session, as the transport delivered it to a call. -/
structure Session where
  name : String
  call : CallId
  alive : Bool
  /-- How often it was told to close. -/
  closes : Nat := 0
  /-- How often it sent the notification of its end. -/
  notices : Nat := 0
  /-- Whether the channel of its notification was closed. -/
  hungUp : Bool := false
deriving DecidableEq

def Session.blank : Session := { name := "", call := 0, alive := false }

/-- What happens to a session on its own. -/
inductive SessionEvent where
  /-- It ends and sends its notification. -/
  | drop (s : SessionId)
  /-- It ends silently. -/
  | die (s : SessionId)
  /-- It sends its notification. -/
  | signal (s : SessionId)
  /-- It closes the channel of its notification. -/
  | hangUp (s : SessionId)
deriving DecidableEq

namespace SessionEvent

def session : SessionEvent → SessionId
  | drop s | die s | signal s | hangUp s => s

def apply : SessionEvent → Session → Session
  | drop _, s => { s with alive := false, notices := s.notices + 1 }
  | die _, s => { s with alive := false }
  | signal _, s => { s with notices := s.notices + 1 }
  | hangUp _, s => { s with hungUp := true }

end SessionEvent

/-- A call of the transport. -/
structure Call where
  identity : Identity
  credentials : Credentials
  rule : Option Forward.Rule
deriving DecidableEq

/-- The answer to a call: a session, which may have ended already, or an error. -/
inductive Answer where
  | session (name : String) (alive : Bool)
  | failure (e : Ssh.Error)
deriving DecidableEq

/-- A call of a listener: which one, for which bridge, in which state that was, and whether a bridge
was listed then under its identity. -/
structure Notice where
  listener : Nat
  entry : EntryId
  status : Status
  stillListed : Bool
deriving DecidableEq

end BridgeKeeper.Bridge
