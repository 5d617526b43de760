import BridgeKeeper.Host.Store
import BridgeKeeper.Table

/-!
A store of hosts with many callers at once. Who changes the file holds the lock of the store from
before reading it until after replacing it; who only reads takes no lock.
-/
namespace BridgeKeeper.Host

abbrev CallId := Nat

/-- What a caller asks of the store. -/
inductive StoreCall where
  | upsert (s : Stored)
  | hosts (onlyConnected : Bool)
  | rules (nickname : String)

inductive StoreAnswer where
  | stored (r : Except StorageError Unit)
  | hosts (r : Except StorageError (List Record))
  | rules (r : Except StorageError (List Forward.Rule))

/-- A call that has the file to itself: its answer, and the disk afterwards. -/
def StoreCall.alone (p : Disk.Path) (time : String) (d : Disk) : StoreCall → StoreAnswer × Disk
  | upsert s => let (r, d) := Store.upsert p time s d; (.stored r, d)
  | hosts onlyConnected => let (r, d) := Store.hosts p time onlyConnected d; (.hosts r, d)
  | rules nickname => let (r, d) := Store.rules p time nickname d; (.rules r, d)

/-- How far a call came. -/
inductive StorePhase where
  /-- Waits for the lock, or for its turn to read. -/
  | called (c : StoreCall)
  /-- Holds the lock and has not read the file. -/
  | locked (s : Stored)
  /-- Holds the lock and has the steps left that replace the file. -/
  | saving (steps : List Disk.SaveStep)
  | done (a : StoreAnswer)

structure Sharing where
  disk : Disk
  path : Disk.Path
  /-- The call that holds the lock. -/
  holder : Option CallId := none
  phases : CallId → Option StorePhase := fun _ => none
  called : Nat := 0
  /-- The calls that took the lock, in that order, and what they were to store. -/
  order : List (CallId × Stored) := []

namespace Sharing

def setPhase (x : Sharing) (k : CallId) (p : StorePhase) : Sharing :=
  { x with phases := put x.phases k (some p) }

/-- Gives the lock back with an answer. -/
def unlock (x : Sharing) (k : CallId) (r : Except StorageError Unit) : Sharing :=
  { x with holder := none }.setPhase k (.done (.stored r))

/-- One step of a call, at the time that the text gives: it takes the lock, reads, or goes one step of
replacing the file. -/
def step (x : Sharing) (k : CallId) (time : String) : Sharing :=
  match x.phases k with
  | some (.called (.upsert s)) =>
    if x.holder = none then
      { x with holder := some k, order := x.order ++ [(k, s)] }.setPhase k (.locked s)
    else x
  | some (.called c) =>
    let (a, d) := c.alone x.path time x.disk
    { x with disk := d }.setPhase k (.done a)
  | some (.locked s) =>
    match Store.load x.path time x.disk with
    | (.error e, d) => { x with disk := d }.unlock k (.error e)
    | (.ok b, d) =>
      { x with disk := d }.setPhase k
        (.saving (Disk.saveSteps x.path (Disk.saveBytes (b.upsert s).toJson)))
  | some (.saving []) => x.unlock k (.ok ())
  | some (.saving (s :: rest)) =>
    match s.apply x.disk with
    | (.ok (), d) => { x with disk := d }.setPhase k (.saving rest)
    | (.error e, d) => { x with disk := d }.unlock k (.error (.io e))
  | some (.done _) | none => x

/-- What can happen to a store: it is called, or a call goes on. -/
inductive Event where
  | call (c : StoreCall)
  | step (k : CallId) (time : String)

def apply (x : Sharing) : Event → Sharing
  | .call c => { x.setPhase x.called (.called c) with called := x.called + 1 }
  | .step k time => x.step k time

/-- A store after some events. -/
def run (x : Sharing) (es : List Event) : Sharing := es.foldl apply x

end Sharing
end BridgeKeeper.Host
