import BridgeKeeper.Bridge.Task
import BridgeKeeper.Table

/-!
The bridges with all that acts on them: which bridge is listed under an identity, the sessions, the
calls of the transport with their answers, the tasks, and the listeners that hear of every bridge
that was removed. The operations on one bridge or one session stand here, what tasks do with them in
`BridgeKeeper.Bridge.Step`.
-/
namespace BridgeKeeper.Bridge

/-- Tables are functions; numbers from `made`, `opened` and `spawned` on are not in use yet. -/
structure World where
  listed : Identity → Option EntryId := fun _ => none
  entries : EntryId → Entry := fun _ => .blank
  made : Nat := 0
  sessions : SessionId → Session := fun _ => .blank
  opened : Nat := 0
  calls : List Call := []
  answers : CallId → Option Answer := fun _ => none
  tasks : TaskId → Option Phase := fun _ => none
  spawned : Nat := 0
  listeners : Nat := 0
  /-- The calls of listeners so far. -/
  notices : List Notice := []
  /-- The reports that were sent so far. -/
  reports : List Directory.Report := []

/-- A bridge as it is shown in a list. -/
structure Info where
  identity : Identity
  target : String
  status : Status
  ruleName : Option String
  sessionName : Option String
deriving DecidableEq

namespace World

/-! ## Reading -/

def status (w : World) (e : EntryId) : Status := (w.entries e).status

def isListed (w : World) (e : EntryId) : Bool := w.listed (w.entries e).identity = some e

def isAlive (w : World) (s : SessionId) : Bool := (w.sessions s).alive

/-- Whether a bridge is connected and its session alive. -/
def isConnected (w : World) (e : EntryId) : Bool :=
  w.status e = .connected && (w.entries e).session.any w.isAlive

/-- The bridges that are listed, in the order of their identities. -/
def bridges (w : World) : List EntryId :=
  ((List.range w.made).filter w.isListed).mergeSort fun a b =>
    (w.entries a).identity.name ≤ (w.entries b).identity.name

def info (w : World) (e : EntryId) : Info :=
  let b := w.entries e
  ⟨b.identity, b.target, b.status, b.rule.map (·.nickname),
    b.session.map fun s => (w.sessions s).name⟩

/-! ## One session -/

/-- What happens to a session on its own; one that is not there yet is left alone. -/
def sessionEvent (w : World) (x : SessionEvent) : World :=
  if x.session < w.opened then
    { w with sessions := put w.sessions x.session (x.apply (w.sessions x.session)) }
  else w

/-- Events of sessions, one after the other. -/
def sessionEvents (w : World) (xs : List SessionEvent) : World := xs.foldl sessionEvent w

/-- Tells a session to close, which takes its time. -/
def tell (w : World) (s : SessionId) : World :=
  { w with sessions := put w.sessions s { w.sessions s with closes := (w.sessions s).closes + 1 } }

/-- The session that an answer delivers; its number was `opened` before. -/
def deliver (w : World) (name : String) (k : CallId) (alive : Bool) : World :=
  { w with
    sessions := put w.sessions w.opened { name, call := k, alive }
    opened := w.opened + 1 }

/-! ## One bridge -/

def setEntry (w : World) (e : EntryId) (b : Entry) : World :=
  { w with entries := put w.entries e b }

/-- Lists a new bridge under its identity; its number was `made` before. -/
def list (w : World) (b : Entry) : World :=
  { w with
    listed := put w.listed b.identity (some w.made)
    entries := put w.entries w.made b
    made := w.made + 1 }

/-- Takes exactly this bridge off the list, and not a later one of its identity. -/
def unlist (w : World) (e : EntryId) : World :=
  if w.isListed e then { w with listed := put w.listed (w.entries e).identity none } else w

def attach (w : World) (e : EntryId) (s : SessionId) : World :=
  w.setEntry e { w.entries e with session := some s, status := .connected }

def fail (w : World) (e : EntryId) (reason : String) : World :=
  w.setEntry e { w.entries e with failure := some reason, status := .disconnected }

/-- Takes back a bridge that never connected. Listeners do not hear of it. -/
def rollBack (w : World) (e : EntryId) (reason : String) : World :=
  (w.unlist e).fail e reason

/-- Calls every listener in turn. -/
def announce (w : World) (e : EntryId) : World :=
  { w with notices := w.notices ++ (List.range w.listeners).map fun l =>
      ⟨l, e, w.status e, (w.listed (w.entries e).identity).isSome⟩ }

/-- Ends exactly this bridge, if it is listed: the listeners hear of it once it is off the list and
disconnected. -/
def retire (w : World) (e : EntryId) : World :=
  if w.isListed e then
    let w := w.unlist e
    (w.setEntry e { w.entries e with status := .disconnected }).announce e
  else w

/-! ## Calls and tasks -/

/-- Calls the transport; the number of the call was the number of calls before. -/
def call (w : World) (c : Call) : World := { w with calls := w.calls ++ [c] }

/-- Sends a report. -/
def send (w : World) (r : Directory.Report) : World := { w with reports := w.reports ++ [r] }

def setTask (w : World) (t : TaskId) (p : Phase) : World :=
  { w with tasks := put w.tasks t (some p) }

/-- Starts a task; its number was `spawned` before. -/
def spawn (w : World) (p : Phase) : World :=
  { w with tasks := put w.tasks w.spawned (some p), spawned := w.spawned + 1 }

def finish (w : World) (t : TaskId) (r : Result) : World := w.setTask t (.done r)

end World
end BridgeKeeper.Bridge
