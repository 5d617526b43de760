import BridgeKeeper.Bridge.Basic
import BridgeKeeper.Directory.Client
import BridgeKeeper.Host.Store

/-!
A boot run restores the bridge of the default host, which is the first one in the store. Nothing is
tried again; a failure is reported where there is someone to report to.
-/
namespace BridgeKeeper.Boot

inductive Outcome where
  | noHosts
  /-- The nickname of the default host names no bridge. -/
  | skipped (nickname : String)
  | reused (identity : Identity)
  | opened (identity : Identity)
  | failed (identity : Option Identity) (reason : String)
deriving DecidableEq

/-- What a run works with; `now` is the time of its report. -/
structure Plan where
  source : Host.Source
  reports : Bool
  now : String

/-- A run that found a host to open, and the bridge that there was when it looked. -/
structure Attempt where
  plan : Plan
  host : Host.Record
  identity : Identity
  existing : Option Bridge.EntryId

namespace Attempt

/-- What the run asks for, once it has read the rules. -/
def request (a : Attempt) (rules : List Forward.Rule) : Bridge.Request :=
  .ofCredentials (a.host.credentials rules)

/-- The outcome with a bridge. -/
def success (a : Attempt) (e : Bridge.EntryId) : Outcome :=
  if a.existing = some e then .reused a.identity else .opened a.identity

/-- The outcome without one. -/
def failure (a : Attempt) (reason : String) : Outcome := .failed (some a.identity) reason

/-- What is reported about a failure. -/
def report (a : Attempt) (reason : String) : Directory.Report :=
  ⟨a.host.email, a.identity.name, (a.host.credentials []).target, reason, a.plan.now⟩

end Attempt

/-- The text of the failure to read the rules of the default host. -/
def rulesFailure (e : StorageError) : String := "failed to read forwarding rules: " ++ e.message

end BridgeKeeper.Boot
