import BridgeKeeper.Probe.Target

/-!
A prober: one task that probes at every tick, and another one that delivers the results through a
slot for the newest of them. A result that is not delivered before the next one comes is left out.
The prober stops between two probes.
-/
namespace BridgeKeeper.Probe

/-- What the probing task does. -/
inductive Scheduler where
  | waiting
  | probing
  | ended
deriving DecidableEq

/-- What the delivering task does: once it is woken, it takes what is in the slot. -/
inductive Delivery where
  | waiting
  | woken
  | ended
deriving DecidableEq

structure Prober where
  stopped : Bool := false
  scheduler : Scheduler := .waiting
  delivery : Delivery := .waiting
  /-- The newest result. -/
  slot : Option Code := none
  /-- Whether the slot holds a result that was not taken yet. -/
  fresh : Bool := false
  /-- How many requests were sent. -/
  requests : Nat := 0
  /-- The results so far, the first one first. -/
  published : List Code := []
  /-- The results that the observer got so far. -/
  delivered : List Code := []
deriving DecidableEq

namespace Prober

inductive Event where
  | stop
  | tick
  | reply (c : Code)
  | wake
  | deliver
deriving DecidableEq

/-- Stops the prober at its next tick. -/
def stop (p : Prober) : Prober := { p with stopped := true }

/-- The time of the next probe has come, or the prober was stopped, which goes first. -/
def tick (p : Prober) : Prober :=
  if p.scheduler = .waiting then
    if p.stopped then { p with scheduler := .ended }
    else { p with scheduler := .probing, requests := p.requests + 1 }
  else p

/-- The result of the probe under way is published. -/
def reply (p : Prober) (c : Code) : Prober :=
  if p.scheduler = .probing then
    { p with
      scheduler := .waiting, slot := some c, fresh := true, published := p.published ++ [c] }
  else p

/-- The delivering task hears of a fresh result, or else of the end of the probing task. -/
def wake (p : Prober) : Prober :=
  if p.delivery = .waiting then
    if p.fresh then { p with delivery := .woken }
    else if p.scheduler = .ended then { p with delivery := .ended }
    else p
  else p

/-- The delivering task takes the result that is in the slot by now. -/
def deliver (p : Prober) : Prober :=
  if p.delivery = .woken then
    { p with delivery := .waiting, fresh := false, delivered := p.delivered ++ p.slot.toList }
  else p

def apply (p : Prober) : Event → Prober
  | .stop => p.stop
  | .tick => p.tick
  | .reply c => p.reply c
  | .wake => p.wake
  | .deliver => p.deliver

/-- The prober after some events. -/
def run (p : Prober) (xs : List Event) : Prober := xs.foldl apply p

/-- Whether both tasks are over. -/
def isOver (p : Prober) : Bool := p.scheduler = .ended && p.delivery = .ended

/-- Stops the prober and lets both tasks come to their end, where no probe is under way. -/
def windUp (p : Prober) : Prober := p.run [.stop, .wake, .deliver, .tick, .wake]

/-- Probes a port of a service, each result being delivered before the next probe, until the
traffic is such that the prober is to stop; at most `fuel` times. -/
def cycles (c : Directory.Client) (port : UInt16) (s : Directory.Service)
    (ends : Directory.Traffic → Bool) : (fuel : Nat) → Directory.Traffic → Prober →
    Directory.Traffic × Prober
  | 0, t, p => (t, p.windUp)
  | fuel + 1, t, p =>
    if ends t then (t, p.windUp)
    else
      let p := p.tick
      let (code, t) := send c port s t
      let p := if ends t then p.stop else p
      cycles c port s ends fuel t (p.run [.reply code, .wake, .deliver])

end Prober
end BridgeKeeper.Probe
