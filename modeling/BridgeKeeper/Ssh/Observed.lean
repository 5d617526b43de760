import BridgeKeeper.Ssh.Session

/-!
A session with those who share it. Some wait for its end, and hear of it through a channel that keeps
the last notice only; some close it, and may be cancelled while they do.
-/
namespace BridgeKeeper.Ssh

/-- What comes to a receiver. -/
inductive Arrival where
  | notice
  /-- So many notices were lost, because later ones took their places. -/
  | lost (count : Nat)
  /-- Nobody is left who could notify anything. -/
  | hungUp
deriving DecidableEq

structure Receiver where
  /-- The number of the notice that comes next. -/
  next : Nat := 0
  /-- What came so far, the first arrival first. -/
  arrivals : List Arrival := []

namespace Receiver

/-- How many notices the channel keeps. -/
def kept : Nat := 1

/-- What comes next, if the receiver need not wait for it. -/
def arrival? (r : Receiver) (sent : Nat) (hungUp : Bool) : Option Arrival :=
  if r.next < sent - kept then some (.lost (sent - kept - r.next))
  else if r.next < sent then some .notice
  else if hungUp then some .hungUp
  else none

/-- Looks for what comes next, when so many notices were sent. -/
def receive (r : Receiver) (sent : Nat) (hungUp : Bool) : Receiver :=
  match r.arrival? sent hungUp with
  | some (.lost n) => { next := r.next + n, arrivals := r.arrivals ++ [.lost n] }
  | some .notice => { next := r.next + 1, arrivals := r.arrivals ++ [.notice] }
  | some .hungUp => { r with arrivals := r.arrivals ++ [.hungUp] }
  | none => r

end Receiver

/-- The request that a call waits for. -/
def Closing.ticket? : Closing → Option Ticket
  | cancelling t | leaving t => some t
  | started | cleared | returned => none

namespace Session

/-- Whether a call that closes the session waits for a request. -/
def isOwn (s : Session) (t : Ticket) : Bool :=
  (List.range s.called).any fun k => (s.closings k).ticket? = some t

/-- Whether nobody is left who could notify the end. -/
def hungUp (s : Session) : Bool := s.owner.stage = .over && s.owner.controllers = 0

/-- A call that closes the session is cancelled. It leaves the forward to the others, and does not
wait any longer for what it requested. -/
def cancel (s : Session) (k : Nat) : Session :=
  let s := match s.closings k with
    | .cancelling t => { s with holder := none, owner := s.owner.forget t }
    | .leaving t => { s with owner := s.owner.forget t }
    | .started | .cleared | .returned => s
  s.setClosing k .returned

end Session

/-- A session with its receivers, which are numbered in the order in which they subscribe. -/
structure Observed where
  session : Session := {}
  receivers : Nat → Receiver := fun _ => {}
  subscribed : Nat := 0
  /-- The calls to close the session that were cancelled. -/
  cancelled : List Nat := []

namespace Observed

def isAlive (o : Observed) : Bool := o.session.isAlive

/-- How often the end was notified. -/
def notices (o : Observed) : Nat := o.session.owner.notices

/-- What came to a receiver so far. -/
def arrivals (o : Observed) (n : Nat) : List Arrival := (o.receivers n).arrivals

/-- Subscribes to the end of the session. The number of the receiver was `subscribed` before. -/
def subscribe (o : Observed) : Observed :=
  { o with
    receivers := put o.receivers o.subscribed { next := o.notices }
    subscribed := o.subscribed + 1 }

/-- A receiver looks for the notice. -/
def receive (o : Observed) (n : Nat) : Observed :=
  if n < o.subscribed then
    { o with receivers := put o.receivers n ((o.receivers n).receive o.notices o.session.hungUp) }
  else o

/-- Cancels a call to close the session that has not returned. -/
def cancel (o : Observed) (k : Nat) : Observed :=
  if o.session.closings k = .returned then o
  else { o with session := o.session.cancel k, cancelled := k :: o.cancelled }

/-- What can happen to a session that several share. -/
inductive Event where
  | close
  | advance (k : Nat)
  | cancel (k : Nat)
  | subscribe
  | receive (n : Nat)
  | owner (x : Owner.Event)

/-- Whether an event of the owner is one of the calls to close the session. Who closes it goes away
by being cancelled only. -/
def concerns (o : Observed) : Owner.Event → Bool
  | .forget t => o.session.isOwn t
  | _ => false

def apply (o : Observed) : Event → Observed
  | .close => { o with session := o.session.apply .close }
  | .advance k => { o with session := o.session.apply (.advance k) }
  | .cancel k => o.cancel k
  | .subscribe => o.subscribe
  | .receive n => o.receive n
  | .owner x => if o.concerns x then o else { o with session := o.session.apply (.owner x) }

/-- A session with its receivers after some events. -/
def run (o : Observed) (xs : List Event) : Observed := xs.foldl apply o

/-- A session that is about to be opened with a forward, if one is set up for it. Nobody looks at the
forward before the session is open. -/
def start (f : Option Active) : Observed := { session := { forward := f } }

end Observed
end BridgeKeeper.Ssh
