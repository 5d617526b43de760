import BridgeKeeper.Disk.Basic
import BridgeKeeper.Json.Printer
import BridgeKeeper.Json.Reader
import BridgeKeeper.Text.Utf8

/-!
JSON files. A file is replaced as a whole: the new text is written and synced beside it under another
name and takes its place in one step. A file that does not decode is copied beside itself before it
counts as missing.
-/
namespace BridgeKeeper

/-- Why stored data cannot be used. -/
inductive StorageError where
  | noConfigDirectory
  | io (e : Disk.IoError)
  | versionTooNew (found supported : UInt32)
deriving DecidableEq

def StorageError.message : StorageError → String
  | noConfigDirectory => "Failed to determine config directory"
  | io e => "IO error: " ++ e.message
  | versionTooNew found supported =>
    "Config version " ++ Text.numeral found.toNat ++ " is newer than supported " ++
      Text.numeral supported.toNat

namespace Disk

def temporaryPath (p : Path) : Path := withExtension p "json.tmp"

/-- The name of a backup made at the time that the text gives. -/
def backupPath (p : Path) (time : String) : Path := withExtension p ("json.backup." ++ time)

/-- Copies a file to its backup name; where that fails nothing changes. -/
def backUp (d : Disk) (p : Path) (time : String) : Disk :=
  match d.copy p (backupPath p time) with
  | .ok d => d
  | .error _ => d

/-- The text of a file, where there is one. -/
def readText (d : Disk) (p : Path) : Except IoError String := do
  match Text.Utf8.decode? (← d.read p) with
  | some s => .ok (String.ofList s)
  | none => .error .invalidUtf8

/-- The data in a file, and the disk afterwards. A missing file and a text that does not decode
hold none; the latter is backed up. -/
def load {α : Type} (decode : Json.Value → Option α) (p : Path) (time : String) (d : Disk) :
    Except StorageError (Option α) × Disk :=
  match d.readText p with
  | .error .notFound => (.ok none, d)
  | .error e => (.error (.io e), d)
  | .ok text =>
    match Json.ofText? text >>= decode with
    | some a => (.ok (some a), d)
    | none => (.ok none, d.backUp p time)

/-- One of the steps in which a file is replaced. -/
inductive SaveStep where
  | makeDirectories (p : Path)
  | create (p : Path)
  | fill (p : Path) (content : Bytes)
  | sync (p : Path)
  | replace (temporary target : Path)

/-- What a step comes to, and the disk afterwards. Only the making of directories can leave something
behind where it fails. -/
def SaveStep.apply (d : Disk) : SaveStep → Except IoError Unit × Disk
  | makeDirectories p => d.makeDirectories p
  | create p => d.after (d.write p [])
  | fill p content => d.after (d.write p content)
  | sync _ => (.ok (), d)
  | replace temporary target => d.after (d.rename temporary target)

/-- The steps that put the content in the place of a file. -/
def saveSteps (p : Path) (content : Bytes) : List SaveStep := [
  .makeDirectories p.parent,
  .create (temporaryPath p),
  .fill (temporaryPath p) content,
  .sync (temporaryPath p),
  .replace (temporaryPath p) p]

/-- Takes the steps in order up to the first that fails. -/
def runSteps (d : Disk) : List SaveStep → Except IoError Unit × Disk
  | [] => (.ok (), d)
  | s :: rest =>
    match s.apply d with
    | (.ok (), d) => runSteps d rest
    | (.error e, d) => (.error e, d)

def saveBytes (v : Json.Value) : Bytes :=
  Text.Utf8.encode v.pretty.toList

/-- Replaces a file by the text of a value. -/
def save (v : Json.Value) (p : Path) (d : Disk) : Except StorageError Unit × Disk :=
  let (r, d) := d.runSteps (saveSteps p (saveBytes v))
  (r.mapError .io, d)

end Disk
end BridgeKeeper
