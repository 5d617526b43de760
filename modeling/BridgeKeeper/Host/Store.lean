import BridgeKeeper.Host.Record
import BridgeKeeper.Settings

/-!
The file of the stored hosts. Nicknames name hosts: storing a host replaces the first one of its
nickname, and its rules are those of that one. Reading lists the hosts by nickname.
-/
namespace BridgeKeeper.Host

/-- A host with its forwarding rules. -/
structure Stored where
  record : Record
  rules : List Forward.Rule
deriving DecidableEq

/-- What the file holds, in its order. -/
structure Book where
  version : UInt32
  hosts : List Stored
deriving DecidableEq

/-- How deep the members of a host may nest that belong to no field: the whole file may nest 127
deep, and a host stands three deep in it. -/
def memberDepth : Nat := 124

/-- A host with its rules is an object, in which the fields of the host stand beside the rules.
All members but the rules are held whole before they are read as fields. -/
def Stored.ofJson? : Json.Value → Option Stored
  | .object ms => do
    let ms ← Json.keyed? ms
    let ruleField ← Json.memberFields? ["portForwardings"] ms
    let rules ← ruleField.optional "portForwardings" (Json.Value.list? Forward.Rule.ofJson?) []
    let others := ms.filter (·.1 != "portForwardings")
    if others.all fun m => m.2.isHeld memberDepth then
      let record ← Record.ofFields? (← Json.memberFields? Record.fieldNames others)
      return ⟨record, rules⟩
    else none
  | _ => none

def Stored.toJson (s : Stored) : Json.Value :=
  .record (s.record.members ++ [("portForwardings", .array (s.rules.map Forward.Rule.toJson))])

namespace Book

def empty : Book := ⟨Settings.supportedVersion, []⟩

def ofJson? (v : Json.Value) : Option Book := do
  let f ← v.fields? ["version", "hosts"]
  return {
    version := ← f.optional "version" Json.Value.uint32? Settings.supportedVersion
    hosts := ← f.optional "hosts" (Json.Value.list? Stored.ofJson?) [] }

def toJson (b : Book) : Json.Value := .record [
  ("version", .nat b.version.toNat),
  ("hosts", .array (b.hosts.map Stored.toJson))]

/-- Replaces the first host of the nickname, or adds the host at the end. -/
def upsertIn (s : Stored) : List Stored → List Stored
  | [] => [s]
  | h :: rest => if h.record.nickname = s.record.nickname then s :: rest else h :: upsertIn s rest

def upsert (b : Book) (s : Stored) : Book :=
  { b with hosts := upsertIn s b.hosts }

/-- The hosts in the order of their nicknames; hosts of one nickname stay in the file's order. -/
def records (b : Book) (onlyConnected : Bool) : List Record :=
  ((b.hosts.map Stored.record).filter fun r => !onlyConnected || r.hasConnected).mergeSort
    fun a b => a.nickname ≤ b.nickname

/-- The rules of the first host of a nickname. -/
def rulesOf (b : Book) (nickname : String) : List Forward.Rule :=
  match b.hosts.find? fun h => h.record.nickname = nickname with
  | some h => h.rules
  | none => []

end Book

namespace Store

open Disk (Path)

def load (p : Path) (time : String) (d : Disk) : Except StorageError Book × Disk :=
  match Disk.load Book.ofJson? p time d with
  | (.error e, d) => (.error e, d)
  | (.ok none, d) => (.ok .empty, d)
  | (.ok (some b), d) => ((Settings.checkVersion b.version).map fun _ => b, d)

/-- Stores a host: reads the file, changes it, and writes it. -/
def upsert (p : Path) (time : String) (s : Stored) (d : Disk) : Except StorageError Unit × Disk :=
  match load p time d with
  | (.error e, d) => (.error e, d)
  | (.ok b, d) => Disk.save (b.upsert s).toJson p d

def hosts (p : Path) (time : String) (onlyConnected : Bool) (d : Disk) :
    Except StorageError (List Record) × Disk :=
  let (r, d) := load p time d
  (r.map (·.records onlyConnected), d)

def rules (p : Path) (time : String) (nickname : String) (d : Disk) :
    Except StorageError (List Forward.Rule) × Disk :=
  let (r, d) := load p time d
  (r.map (·.rulesOf nickname), d)

end Store

/-! ## Where hosts are read from -/

/-- A list of hosts, of which the first is the default host, and the rules of each. Reading either may
fail. -/
structure Source where
  hosts : Except StorageError (List Record)
  rules : Record → Except StorageError (List Forward.Rule)

/-- The hosts in a file, as a disk holds it. -/
def Store.source (p : Disk.Path) (time : String) (d : Disk) : Source where
  hosts := (hosts p time false d).1
  rules r := (rules p time r.nickname d).1

theorem Store.source_of_load {p : Disk.Path} {time : String} {d : Disk} {b : Book}
    (load : (Store.load p time d).1 = .ok b) :
    Store.source p time d = ⟨.ok (b.records false), fun r => .ok (b.rulesOf r.nickname)⟩ := by
  simp only [source, hosts, rules, load]
  rfl

/-- The first rule of the default host; none where it cannot be read. -/
def Source.firstRule? (s : Source) : Option Forward.Rule := do
  let host ← s.hosts.toOption >>= List.head?
  (s.rules host).toOption >>= List.head?

end BridgeKeeper.Host
