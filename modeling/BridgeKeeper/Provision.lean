import BridgeKeeper.Directory.Service
import BridgeKeeper.Host.Store

/-!
Provisioning: the first credentials that the directory service has for an account are stored as a
host, with their first rule. Nothing is stored unless every step succeeds.
-/
namespace BridgeKeeper.Provision

inductive Error where
  | storage (e : StorageError)
  | directory (e : Directory.Error)
  | noCredentials (account : String)
  | invalidCredentials (fault : Credentials.Fault)
deriving DecidableEq

def Error.message : Error → String
  | storage e => e.message
  | directory e => e.message
  | noCredentials account => "No credentials provisioned for " ++ account
  | invalidCredentials fault => "Invalid credentials from directory: " ++ fault.message

/-- The host to store for the credentials that the service has. -/
def choose (account : String) (sets : List Credentials) : Except Error Host.Stored :=
  match sets with
  | [] => .error (.noCredentials account)
  | c :: _ =>
    match c.check with
    | .error fault => .error (.invalidCredentials fault)
    | .ok () => .ok ⟨Host.Record.provisioned c account, c.firstRule?.toList⟩

/-- Stores the host that the service's answer leads to. -/
def store (account : String) (answer : Except Directory.Error (List Credentials)) (p : Disk.Path)
    (time : String) (d : Disk) : Except Error Host.Record × Disk :=
  match answer with
  | .error e => (.error (.directory e), d)
  | .ok sets =>
    match choose account sets with
    | .error e => (.error e, d)
    | .ok s =>
      match Host.Store.upsert p time s d with
      | (.error e, d) => (.error (.storage e), d)
      | (.ok (), d) => (.ok s.record, d)

/-- Asks the service and stores the host. -/
def run (c : Directory.Client) (account password : String) (s : Directory.Service)
    (t : Directory.Traffic) (p : Disk.Path) (time : String) (d : Disk) :
    Except Error Host.Record × Directory.Traffic × Disk :=
  let (answer, t) := (c.getSettings account password).send s t
  let (r, d) := store account answer p time d
  (r, t, d)

end BridgeKeeper.Provision
