import BridgeKeeper.Bridge.Script
import BridgeKeeper.Directory.Service

/-!
Boot runs where nothing waits for long: the transport answers by a script, and a report is sent to
a service whose reply comes at once.
-/
namespace BridgeKeeper.Boot

open Bridge (Script TaskId World)

/-- How a boot run ended, if it did. -/
def outcome? (w : World) (t : TaskId) : Option Outcome :=
  match w.tasks t with
  | some (.done (.booted o)) => some o
  | _ => none

/-- Lets all tasks go, and sends the report that a boot run waits for. -/
def settle (s : Script) (reporter : Option Directory.Client) (service : Directory.Service)
    (t : TaskId) (traffic : Directory.Traffic) (w : World) : Directory.Traffic × World :=
  let w := w.settle s
  match w.tasks t, reporter with
  | some (.reporting r _), some c =>
    let (reply, traffic) := (c.logError r).send service traffic
    (traffic, (w.apply (.reply t reply)).settle s)
  | _, _ => (traffic, w)

/-- Performs a boot run over the hosts of a source. -/
def run (s : Script) (source : Host.Source) (reporter : Option Directory.Client)
    (service : Directory.Service) (now : String) (traffic : Directory.Traffic) (w : World) :
    Option Outcome × Directory.Traffic × World :=
  let t := w.spawned
  let w := w.apply (.start (.boot ⟨source, reporter.isSome, now⟩))
  let (traffic, w) := settle s reporter service t traffic w
  (outcome? w t, traffic, w)

end BridgeKeeper.Boot
