import BridgeKeeper.Boot.Basic

/-!
What is done with the bridges, task by task. The phase of a task says how far it came: between two
phases it waits, or others may go first.
-/
namespace BridgeKeeper.Bridge

/-- Who asked for a bridge. -/
inductive Caller where
  | plain
  | boot (a : Boot.Attempt)

/-- How a task ended. -/
inductive Result where
  | ensured (r : Except Error EntryId)
  | settled (s : Option Status)
  | removed (e : Option EntryId)
  | disconnected (r : Except Error Unit)
  | cleared
  | booted (o : Boot.Outcome)
  | watched

/-- What a task goes on with once a session is closed. -/
inductive Sequel where
  | removed
  | disconnected
  /-- Removes the bridges of the identities that are left. -/
  | clearing (is : List Identity)
  /-- Tells who asked for the bridge that it was removed while its session came to be. -/
  | discarded (c : Caller)

inductive Phase where
  /-- Looks for a bridge to share, or makes one. -/
  | ensure (c : Caller) (i : Identity) (r : Option Request)
  /-- Waits for the answer of the transport for the bridge that it made. -/
  | opening (c : Caller) (e : EntryId) (k : CallId)
  /-- Waits for a bridge that another task opens. -/
  | joining (c : Caller) (e : EntryId)
  | waitFor (i : Identity)
  | settling (e : EntryId)
  | remove (i : Identity)
  | disconnect (i : Identity)
  /-- Waits for a bridge to settle before it disconnects it. -/
  | disconnecting (e : EntryId)
  | clear
  /-- Removes the bridges of the identities. -/
  | clearing (is : List Identity)
  /-- Waits until the session of a bridge that is off the list is closed. -/
  | closing (e : EntryId) (s : SessionId) (q : Sequel)
  /-- Looks whether the session of a bridge is alive, having heard some of its notifications. -/
  | watch (e : EntryId) (s : SessionId) (heard : Nat)
  /-- Waits for the session of a bridge to end. -/
  | watching (e : EntryId) (s : SessionId) (heard : Nat)
  /-- Reads the hosts. -/
  | boot (p : Boot.Plan)
  /-- Reads the rules of the default host. -/
  | bootRules (a : Boot.Attempt)
  /-- Waits for the reply to the report of a failure. -/
  | reporting (r : Directory.Report) (o : Boot.Outcome)
  | done (r : Result)
  | aborted

/-- What a task can be started for. -/
inductive Operation where
  /-- Gives the bridge of an identity, and opens it where there is none and a request says how. -/
  | ensureOpen (i : Identity) (r : Option Request)
  /-- Waits until the bridge of an identity is not connecting. -/
  | waitFor (i : Identity)
  /-- Removes the bridge of an identity and closes its session if that is alive. -/
  | remove (i : Identity)
  /-- Waits for the bridge of an identity to settle, removes it and closes its session. -/
  | disconnect (i : Identity)
  /-- Removes every bridge that is listed at the start. -/
  | disconnectAll
  | boot (p : Boot.Plan)

def Operation.start : Operation → Phase
  | ensureOpen i r => .ensure .plain i r
  | waitFor i => .waitFor i
  | remove i => .remove i
  | disconnect i => .disconnect i
  | disconnectAll => .clear
  | boot p => .boot p

end BridgeKeeper.Bridge
