import BridgeKeeper.Proofs.Bridge.Clearing
import BridgeKeeper.Proofs.Bridge.Fanout
import BridgeKeeper.Proofs.Bridge.Isolation
import BridgeKeeper.Proofs.Bridge.Ownership

/-!
# Taking all bridges down while others go on

Who removes all bridges has the identities that it found listed at the start, and removes one bridge
at a time, waiting for its session to be closed. In between sessions end, watchers take their bridges
off the list, openers go on and others remove bridges, so that each bridge leaves the list by one event
or another. What was to become of a bridge that left it while it was connecting comes to nothing,
however late the transport answers.
-/
namespace BridgeKeeper.Bridge

namespace Sequel

variable {z : Sequel} {w : World} {e : EntryId} {s : Option SessionId}

end Sequel

namespace World

variable {w v : World} {t u : TaskId} {p q : Phase} {x : Event} {e : EntryId} {s : SessionId}
  {c : Caller} {k : CallId} {ys : List Event}

def Leaves (w : World) (e : EntryId) (x : Event) : Prop :=
  w.isListed e ∧ (w.apply x).isListed e = false

instance : Decidable (w.Leaves e x) := inferInstanceAs (Decidable (_ ∧ _))

/-- How a task stands that opens a bridge which is off the list: the answer is still to come, or the
session that it was given is being closed, or the task is cancelled, or its caller has been told an
error. -/
inductive Fails (c : Caller) (e : EntryId) (k : CallId) : Phase → Prop
  | waiting : Fails c e k (.opening c e k)
  | closing {s : SessionId} : Fails c e k (.closing e s (.discarded c))
  | cancelled : Fails c e k .aborted
  | told {q f} : q = c.after (.error f) → Fails c e k q
  | replied {a reason} : c = .boot a → Fails c e k (.done (.booted (a.failure reason)))

/-- An opener takes an answer in vain: the list stays as it is, and the caller is told an error, or a
session that was delivered is told to close, and the opener waits for that. -/
structure Refuses (w v : World) (u : TaskId) (c : Caller) (e : EntryId) (a : Answer) : Prop where
  listed : v.listed = w.listed
  told {f : Ssh.Error} : a = .failure f → ∃ x, v.tasks u = some (c.after (.error x))
  closes {name : String} {alive : Bool} : a = .session name alive →
    v.tasks u = some (.closing e w.opened (.discarded c)) ∧ (v.sessions w.opened).closes = 1

/-- An opener has closed a session that it was given in vain: the list stays as it is, the caller is
told an error, and the session will not be alive any more. -/
structure Discards (w v : World) (u : TaskId) (c : Caller) (s : SessionId) : Prop where
  listed : v.listed = w.listed
  told : ∃ x, v.tasks u = some (c.after (.error x))
  dead (zs : List Event) : (v.run zs).isAlive s = false

/-- By an event of the run another task than the call has ended a bridge and told its session to close,
and it still waits for that, or it was cancelled. -/
def LeftToOther (xs us : List Event) (x : Event) (t : TaskId) (e : EntryId) (s : SessionId) : Prop :=
  ∃ u m p z, u ≠ t ∧ x = .run u m ∧ (run {} us).tasks u = some p ∧
    Ends (run {} us) e p (some s) (.closing e s z) ∧
    ((run {} xs).tasks u = some (.closing e s z) ∨ CutShort {} s xs)

/-- A session that is left to another task was told to close. -/
theorem LeftToOther.told {xs us : List Event} (h : LeftToOther xs us x t e s) :
    s < (run {} xs).opened ∧ 0 < ((run {} xs).sessions s).closes := by
  obtain ⟨u, m, p, z, -, -, -, -, waits | cut⟩ := h
  · have closes := (regular_run xs).closing u e s z waits
    exact ⟨closes.opened, closes.told⟩
  · exact (regular_run []).told_of_cutShort cut

end World
end BridgeKeeper.Bridge
