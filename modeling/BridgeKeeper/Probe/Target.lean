import BridgeKeeper.Directory.Service
import BridgeKeeper.Host.Store

/-!
What is probed, and when. The port to probe is the number that a rule's nickname gives, where it
gives one. The service is asked about the port, and whatever goes wrong counts as unreachable.
-/
namespace BridgeKeeper.Probe

/-- The number from 1 to 65535 that a text denotes. -/
def portOf? (s : List Char) : Option UInt16 := (Text.word16? s).filter (· != 0)

/-- The port that the nickname of a rule gives, or else the default. -/
def target (r : Forward.Rule) (default : UInt16) : UInt16 :=
  (portOf? (Text.trim r.nickname.toList)).getD default

/-- The port that the default host's first rule gives; without a rule the default port. -/
def defaultTarget (s : Host.Source) (default : UInt16) : UInt16 :=
  match s.firstRule? with
  | some r => target r default
  | none => default

/-- Times of the first probe and between two probes. -/
structure Schedule where
  initialDelayMs : UInt64
  periodSecs : UInt64
deriving DecidableEq

/-- A period is never zero. -/
def Schedule.ofSettings (s : Settings.Probing) : Schedule :=
  ⟨s.initialDelayMs, if s.periodSecs = 0 then 1 else s.periodSecs⟩

/-- The answer to a probe; zero means that nothing was reached. -/
structure Code where
  value : Int32
deriving DecidableEq

def Code.unreachable : Code := ⟨0⟩

def Code.isReachable (c : Code) : Bool := c.value != 0

def codeOf : Except Directory.Error Int32 → Code
  | .ok n => ⟨n⟩
  | .error _ => .unreachable

/-- What a reply to a probe means. -/
def code (c : Directory.Client) (port : UInt16) (r : Directory.Reply) : Code :=
  codeOf ((c.proxyTest port).answer r)

def send (c : Directory.Client) (port : UInt16) (s : Directory.Service) (t : Directory.Traffic) :
    Code × Directory.Traffic :=
  let (r, t) := (c.proxyTest port).send s t
  (codeOf r, t)

end BridgeKeeper.Probe
