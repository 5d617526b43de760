import BridgeKeeper.Bridge.Step

/-!
A world in which nothing waits for long: the transport answers every call at once by a script,
unless it holds the answer back, and tasks go one after the other, each as far as it can.
-/
namespace BridgeKeeper.Bridge

/-- How the transport answers. -/
inductive Mode where
  | accept (alive : Bool)
  | refuse (e : Ssh.Error)
  | hold
deriving DecidableEq

/-- A mode, with the call from which on calls are counted to name their sessions. -/
structure Script where
  mode : Mode
  since : CallId := 0
deriving DecidableEq

/-- The answer to a call, if it is not held back. -/
def Script.answer? (s : Script) (k : CallId) : Option Answer :=
  match s.mode with
  | .accept alive => some (.session ("session-" ++ Text.numeral (k - s.since)) alive)
  | .refuse e => some (.failure e)
  | .hold => none

namespace World

/-- Answers a call by the script. -/
def answerBy (w : World) (s : Script) (k : CallId) : World :=
  match s.answer? k with
  | some a => w.answer k a
  | none => w

/-- Lets a task go as far as it can, in at most `fuel` steps. Calls that it makes are answered. -/
def drive (s : Script) (t : TaskId) : (fuel : Nat) → World → World
  | 0, w => w
  | fuel + 1, w =>
    if w.canMove t then
      let next := w.step t {}
      let new := (List.range next.calls.length).drop w.calls.length
      drive s t fuel (new.foldl (fun w k => w.answerBy s k) next)
    else w

/-- The tasks that can move, in the order in which they came to be. -/
def ready (w : World) : List TaskId := (List.range w.spawned).filter w.canMove

/-- Lets the tasks of a queue go, and behind them those that can move by then, until none can move
or `fuel` tasks had their turn. -/
def runQueue (s : Script) : (fuel : Nat) → List TaskId → World → World
  | 0, _, w => w
  | fuel + 1, queue, w =>
    match queue ++ w.ready.filter fun t => !queue.contains t with
    | [] => w
    | t :: rest => runQueue s fuel rest (w.drive s t (2 * w.made + w.spawned + 8))

/-- Lets all tasks go until none can move. -/
def settle (s : Script) (w : World) : World :=
  w.runQueue s ((w.made + w.spawned + 4) * (w.spawned + 4)) []

/-- Starts a task and lets all go. -/
def perform (s : Script) (w : World) (o : Operation) : World := (w.apply (.start o)).settle s

/-- Answers a call that was held back. Nothing happens unless its caller still waits. -/
def resolve (s : Script) (k : CallId) (w : World) : Bool × World :=
  if k < w.calls.length ∧ w.answers k = none ∧ w.isAwaited k then (true, w.answerBy s k) else (false, w)

end World
end BridgeKeeper.Bridge
