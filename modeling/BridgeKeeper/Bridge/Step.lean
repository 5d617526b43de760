import BridgeKeeper.Bridge.World

/-!
What tasks do with bridges, one step at a time, and all that can happen to them. A step is what a
task does without waiting; between two steps of a task anything else may happen. Sessions live on
their own, so their events may also fall into a step, which `Meanwhile` says.
-/
namespace BridgeKeeper.Bridge

/-- Events of sessions during the step in which a session is delivered: between the delivery and the
subscription to its notification, and from there to the listing as connected. -/
structure Meanwhile where
  delivered : List SessionEvent := []
  subscribed : List SessionEvent := []

namespace World

/-- A boot run ends without a bridge. It waits for the reply to its report, if it sends one. -/
def bootFailed (w : World) (t : TaskId) (a : Boot.Attempt) (reason : String) : World :=
  if a.plan.reports then
    (w.send (a.report reason)).setTask t (.reporting (a.report reason) (a.failure reason))
  else w.finish t (.booted (a.failure reason))

/-- Hands the bridge, or the error, to who asked for it. -/
def conclude (w : World) (t : TaskId) (c : Caller) (r : Except Error EntryId) : World :=
  match c, r with
  | .plain, r => w.finish t (.ensured r)
  | .boot a, .ok e => w.finish t (.booted (a.success e))
  | .boot a, .error e => w.bootFailed t a e.message

/-- Looks for the bridge of an identity. A bridge that is connected is shared, one that is connecting
waited for, and one whose session has died is replaced in the next round. -/
def ensure (w : World) (t : TaskId) (c : Caller) (i : Identity) (r : Option Request) : World :=
  match w.listed i with
  | none =>
    match r with
    | none => w.conclude t c (.error (.notFound i))
    | some r =>
      match r.check with
      | .error fault => w.conclude t c (.error (.invalidCredentials fault))
      | .ok () =>
        ((w.list (.placeholder i r)).call ⟨i, r.credentials, r.rule⟩).setTask t
          (.opening c w.made w.calls.length)
  | some e =>
    match w.status e with
    | .connected => if w.isConnected e then w.conclude t c (.ok e) else w.retire e
    | .connecting => w.setTask t (.joining c e)
    | .disconnected => w.unlist e

/-- Goes on after a session was closed, or where there is none to close. -/
def resume (w : World) (t : TaskId) (e : EntryId) : Sequel → World
  | .removed => w.finish t (.removed (some e))
  | .disconnected => w.finish t (.disconnected (.ok ()))
  | .clearing is => w.setTask t (.clearing is)
  | .discarded c => w.conclude t c (.error (w.entries e).openFailure)

/-- Closes the session of a bridge, if there is one to close. The task waits until that is done, and
may be cancelled while it does. -/
def close (w : World) (t : TaskId) (e : EntryId) (s : Option SessionId) (q : Sequel) : World :=
  match s with
  | some s => (w.tell s).setTask t (.closing e s q)
  | none => w.resume t e q

/-- A session is closed: it is not alive and has sent its notification, and the task goes on. -/
def closed (w : World) (t : TaskId) (e : EntryId) (s : SessionId) (q : Sequel) : World :=
  (w.sessionEvent (.drop s)).resume t e q

/-- Takes the answer of the transport. The session is subscribed to before the bridge is shown as
connected, so that its end is not missed; it is closed if the bridge was removed. -/
def settleOpen (w : World) (t : TaskId) (c : Caller) (e : EntryId) (k : CallId) (m : Meanwhile) :
    Answer → World
  | .failure x =>
    let w := w.rollBack e x.message
    w.conclude t c (.error (w.entries e).openFailure)
  | .session name alive =>
    let s := w.opened
    let w := (w.deliver name k alive).sessionEvents m.delivered
    let heard := (w.sessions s).notices
    let w := w.sessionEvents m.subscribed
    if w.isListed e then ((w.attach e s).spawn (.watch e s heard)).conclude t c (.ok e)
    else (w.fail e "removed while connecting").close t e (some s) (.discarded c)

/-- What is returned to those who waited for a bridge that is not connecting any more. -/
def verdict (w : World) (e : EntryId) : Except Error EntryId :=
  if w.status e = .connected then .ok e else .error (w.entries e).openFailure

/-- Goes on once a bridge is not connecting any more. -/
def joined (w : World) (t : TaskId) (c : Caller) (e : EntryId) : World :=
  w.conclude t c (w.verdict e)

/-- Ends a bridge that is listed, and closes its session if that is alive. -/
def remove (w : World) (t : TaskId) (e : EntryId) (q : Sequel) : World :=
  (w.retire e).close t e ((w.entries e).session.filter w.isAlive) q

/-- Ends a bridge that was found before, if it is still listed, and closes its session. -/
def disconnect (w : World) (t : TaskId) (e : EntryId) : World :=
  (w.retire e).close t e (w.entries e).session .disconnected

/-- Reads the hosts and looks whether the default host has a bridge already. -/
def bootHosts (w : World) (t : TaskId) (p : Boot.Plan) : World :=
  match p.source.hosts with
  | .error e => w.finish t (.booted (.failed none e.message))
  | .ok [] => w.finish t (.booted .noHosts)
  | .ok (h :: _) =>
    match h.identity? with
    | none => w.finish t (.booted (.skipped h.nickname))
    | some i =>
      if (w.listed i).any w.isConnected then w.finish t (.booted (.reused i))
      else w.setTask t (.bootRules ⟨p, h, i, w.listed i⟩)

/-- Reads the rules of the default host and asks for its bridge. -/
def bootRules (w : World) (t : TaskId) (a : Boot.Attempt) : World :=
  match a.plan.source.rules a.host with
  | .error e => w.bootFailed t a (Boot.rulesFailure e)
  | .ok rules => w.setTask t (.ensure (.boot a) a.identity (some (a.request rules)))

/-- Whether a notification came that was not heard, or none can come any more. -/
def hasEnded (w : World) (s : SessionId) (heard : Nat) : Bool :=
  heard < (w.sessions s).notices || (w.sessions s).hungUp

/-- Whether a phase has a step to do now. -/
def isReady (w : World) : Phase → Bool
  | .ensure .. | .waitFor _ | .remove _ | .disconnect _ | .clear | .clearing _ => true
  | .closing .. | .watch .. | .boot _ | .bootRules _ => true
  | .opening _ _ k => (w.answers k).isSome
  | .joining _ e | .settling e | .disconnecting e => w.status e != .connecting
  | .watching _ s heard => w.hasEnded s heard
  | .reporting .. | .done _ | .aborted => false

/-- The step of a task in a phase that is ready. -/
def advance (w : World) (t : TaskId) (m : Meanwhile) : Phase → World
  | .ensure c i r => w.ensure t c i r
  | .opening c e k =>
    match w.answers k with
    | some a => w.settleOpen t c e k m a
    | none => w
  | .joining c e => w.joined t c e
  | .waitFor i =>
    match w.listed i with
    | none => w.finish t (.settled none)
    | some e => w.setTask t (.settling e)
  | .settling e => w.finish t (.settled (some (w.status e)))
  | .remove i =>
    match w.listed i with
    | none => w.finish t (.removed none)
    | some e => w.remove t e .removed
  | .disconnect i =>
    match w.listed i with
    | none => w.finish t (.disconnected (.error (.notFound i)))
    | some e =>
      if w.status e = .connecting then w.setTask t (.disconnecting e) else w.disconnect t e
  | .disconnecting e => w.disconnect t e
  | .clear => w.setTask t (.clearing (w.bridges.map fun e => (w.entries e).identity))
  | .clearing [] => w.finish t .cleared
  | .clearing (i :: is) =>
    match w.listed i with
    | none => w.setTask t (.clearing is)
    | some e => w.remove t e (.clearing is)
  | .closing e s q => w.closed t e s q
  | .watch e s heard =>
    if w.isAlive s then w.setTask t (.watching e s heard) else (w.retire e).finish t .watched
  | .watching e _ _ => (w.retire e).finish t .watched
  | .boot p => w.bootHosts t p
  | .bootRules a => w.bootRules t a
  | .reporting .. | .done _ | .aborted => w

def canMove (w : World) (t : TaskId) : Bool := (w.tasks t).any w.isReady

/-- One step of a task; a task that cannot move stays as it is. -/
def step (w : World) (t : TaskId) (m : Meanwhile) : World :=
  match w.tasks t with
  | some p => if w.isReady p then w.advance t m p else w
  | none => w

/-- Cancels a task that is not over. The bridge that it was opening is taken back. Watchers belong
to no caller and cannot be cancelled. -/
def abort (w : World) (t : TaskId) : World :=
  match w.tasks t with
  | none | some (.done _) | some .aborted | some (.watch ..) | some (.watching ..) => w
  | some (.opening _ e _) => (w.rollBack e "open cancelled").setTask t .aborted
  | some _ => w.setTask t .aborted

/-- Whether a task still waits for the answer to a call. -/
def isAwaited (w : World) (k : CallId) : Bool :=
  (List.range w.spawned).any fun t =>
    match w.tasks t with
    | some (.opening _ _ k') => k' = k
    | _ => false

/-- The transport answers a call, once. -/
def answer (w : World) (k : CallId) (a : Answer) : World :=
  if k < w.calls.length ∧ w.answers k = none then { w with answers := put w.answers k (some a) }
  else w

/-- The reply to a report came, whatever it says. -/
def replied (w : World) (t : TaskId) : World :=
  match w.tasks t with
  | some (.reporting _ o) => w.finish t (.booted o)
  | _ => w

end World

/-- All that can happen. -/
inductive Event where
  | start (o : Operation)
  | run (t : TaskId) (m : Meanwhile)
  | answer (k : CallId) (a : Answer)
  | reply (t : TaskId) (r : Except Directory.Error Int32)
  | session (x : SessionEvent)
  | abort (t : TaskId)
  | listen

namespace World

def apply (w : World) : Event → World
  | .start o => w.spawn o.start
  | .run t m => w.step t m
  | .answer k a => w.answer k a
  | .reply t _ => w.replied t
  | .session x => w.sessionEvent x
  | .abort t => w.abort t
  | .listen => { w with listeners := w.listeners + 1 }

/-- The world after some events. -/
def run (w : World) (xs : List Event) : World := xs.foldl apply w

end World
end BridgeKeeper.Bridge
