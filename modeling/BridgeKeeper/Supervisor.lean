import BridgeKeeper.Boot.Run
import BridgeKeeper.Probe.Prober
import BridgeKeeper.Probe.Target

/-!
A supervised run: it restores the default bridge, then probes until it is told to shut down, and at
last takes down the prober and all bridges. The shutdown may come at any time, but is looked for only
once the prober runs.
-/
namespace BridgeKeeper

/-- How far a supervised run came. -/
inductive Supervisor.Stage where
  | booting (t : Bridge.TaskId)
  | probing
  | joining
  | clearing (t : Bridge.TaskId)
  | over
deriving DecidableEq

structure Supervisor where
  world : Bridge.World
  prober : Probe.Prober := {}
  stage : Supervisor.Stage
  /-- Whether the shutdown came. -/
  shutdown : Bool := false

namespace Supervisor

/-- The start: one listener, and a boot run. -/
def start (p : Boot.Plan) : Supervisor where
  world := ({ listeners := 1 } : Bridge.World).apply (.start (.boot p))
  stage := .booting 0

def isDone (w : Bridge.World) (t : Bridge.TaskId) : Bool :=
  match w.tasks t with
  | some (.done _) => true
  | _ => false

/-- Goes on to the next stage, if what the present one waits for has come. -/
def proceed (s : Supervisor) : Supervisor :=
  match s.stage with
  | .booting t => if isDone s.world t then { s with stage := .probing } else s
  | .probing => if s.shutdown then { s with prober := s.prober.stop, stage := .joining } else s
  | .joining =>
    if s.prober.isOver then
      { s with world := s.world.apply (.start .disconnectAll), stage := .clearing s.world.spawned }
    else s
  | .clearing t => if isDone s.world t then { s with stage := .over } else s
  | .over => s

/-- Whether the prober runs. -/
def hasProber (s : Supervisor) : Bool := s.stage matches .probing | .joining

/-- All that can happen to a supervised run. -/
inductive Event where
  | run (t : Bridge.TaskId) (m : Bridge.Meanwhile)
  | answer (k : Bridge.CallId) (a : Bridge.Answer)
  | reply (t : Bridge.TaskId) (r : Except Directory.Error Int32)
  | session (x : Bridge.SessionEvent)
  | tick
  | probed (c : Probe.Code)
  | wake
  | deliver
  | shutdown
  | proceed

def onWorld (s : Supervisor) (x : Bridge.Event) : Supervisor :=
  { s with world := s.world.apply x }

def onProber (s : Supervisor) (x : Probe.Prober.Event) : Supervisor :=
  if s.hasProber then { s with prober := s.prober.apply x } else s

def apply (s : Supervisor) : Event → Supervisor
  | .run t m => s.onWorld (.run t m)
  | .answer k a => s.onWorld (.answer k a)
  | .reply t r => s.onWorld (.reply t r)
  | .session x => s.onWorld (.session x)
  | .tick => s.onProber .tick
  | .probed c => s.onProber (.reply c)
  | .wake => s.onProber .wake
  | .deliver => s.onProber .deliver
  | .shutdown => { s with shutdown := true }
  | .proceed => s.proceed

/-- A supervised run after some events. -/
def run (s : Supervisor) (xs : List Event) : Supervisor := xs.foldl apply s

/-- What a run needs of its surroundings: the hosts, how the transport and the directory service
answer, and for which traffic the shutdown comes. -/
structure Surroundings where
  source : Host.Source
  script : Bridge.Script
  service : Directory.Service
  shutsDown : Directory.Traffic → Bool
  now : String

/-- What the boot run of a supervised run works with: its failures are reported. -/
def Surroundings.plan (x : Surroundings) : Boot.Plan := ⟨x.source, true, x.now⟩

/-- Lets the prober probe, at most `fuel` times, if it runs. -/
def probe (s : Supervisor) (x : Surroundings) (c : Directory.Client) (port : UInt16) (fuel : Nat)
    (traffic : Directory.Traffic) : Directory.Traffic × Supervisor :=
  if s.hasProber then
    let (traffic, p) := Probe.Prober.cycles c port x.service x.shutsDown fuel traffic s.prober
    (traffic, { s with prober := p })
  else (traffic, s)

/-- A whole run, with at most `fuel` probes. -/
def complete (x : Surroundings) (c : Directory.Client) (port : UInt16) (fuel : Nat) :
    Directory.Traffic × Supervisor :=
  let s := start x.plan
  let (traffic, w) := Boot.settle x.script (some c) x.service 0 [] s.world
  let (traffic, s) := ({ s with world := w }.proceed).probe x c port fuel traffic
  let s := (s.apply .shutdown).proceed.proceed
  (traffic, { s with world := s.world.settle x.script }.proceed)

/-- Starts a run by the settings. It needs a base URL that a client takes. -/
def supervise (s : Settings) (x : Surroundings) (fuel : Nat) :
    Except Directory.Error (Directory.Traffic × Supervisor) :=
  (Directory.Client.ofSettings s.directory).map fun c =>
    complete x c (Probe.defaultTarget x.source s.probing.defaultPort) fuel

end Supervisor
end BridgeKeeper
