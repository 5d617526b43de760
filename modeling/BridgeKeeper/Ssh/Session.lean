import BridgeKeeper.Ssh.Owner
import BridgeKeeper.Table

/-!
A session: a connection with its owner, and at most one forward that was set up for it. To close it
takes the forward down first and then tells the owner to disconnect; any number may close it at the
same time, of whom one takes the forward down while the others wait.
-/
namespace BridgeKeeper.Ssh

/-- Listeners of this machine are numbered in the order in which they come to be. -/
abbrev ListenerId := Nat

/-- A forward that was set up: a listener of this machine, or one that the server granted. -/
inductive Active where
  | listener (l : ListenerId)
  | granted (address : String) (port : Nat)
deriving DecidableEq

/-- How far a call came that closes a session. -/
inductive Closing where
  /-- Waits until no other one takes down the forward. -/
  | started
  /-- Waits for the answer to the cancelling of the forward. -/
  | cancelling (t : Ticket)
  /-- The forward is down. -/
  | cleared
  /-- Waits for room in the queue. -/
  | leaving (t : Ticket)
  | returned
deriving DecidableEq

structure Session where
  owner : Owner := {}
  forward : Option Active := none
  /-- The call that is taking the forward down. -/
  holder : Option Nat := none
  closings : Nat → Closing := fun _ => .returned
  called : Nat := 0
  /-- The listeners that were stopped so far. -/
  stopped : List ListenerId := []

namespace Session

def isAlive (s : Session) : Bool := s.owner.isOpen

def setClosing (s : Session) (k : Nat) (c : Closing) : Session :=
  { s with closings := put s.closings k c }

/-- Begins to close the session. The number of the call was `called` before. -/
def close (s : Session) : Session :=
  { s.setClosing s.called .started with called := s.called + 1 }

/-- Takes the forward down, unless another one is at it. -/
def takeDown (s : Session) (k : Nat) : Session :=
  match s.holder, s.forward with
  | some _, _ => s
  | none, none => s.setClosing k .cleared
  | none, some (.listener l) =>
    { s with forward := none, stopped := s.stopped ++ [l] }.setClosing k .cleared
  | none, some (.granted address port) =>
    let t := s.owner.requests
    { s with
      forward := none, holder := some k
      owner := s.owner.request (.cancel address port) }.setClosing k (.cancelling t)

/-- Goes on with a call that closes the session, if what it waits for has come. -/
def advance (s : Session) (k : Nat) : Session :=
  match s.closings k with
  | .started => s.takeDown k
  | .cancelling t =>
    if (s.owner.answer? t).isSome then { s with holder := none }.setClosing k .cleared else s
  | .cleared =>
    { s with owner := s.owner.request .disconnect }.setClosing k (.leaving s.owner.requests)
  | .leaving t =>
    if (s.owner.placed ++ s.owner.waiting).any (·.ticket = t) then s else s.setClosing k .returned
  | .returned => s

/-- What can happen to a session. -/
inductive Event where
  | close
  | advance (k : Nat)
  | owner (x : Owner.Event)

def apply (s : Session) : Event → Session
  | .close => s.close
  | .advance k => s.advance k
  | .owner x => { s with owner := s.owner.apply x }

/-- A session after some events. -/
def run (s : Session) (xs : List Event) : Session := xs.foldl apply s

end Session
end BridgeKeeper.Ssh
