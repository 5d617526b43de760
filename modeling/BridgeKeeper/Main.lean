import BridgeKeeper.Program
import BridgeKeeper.Ssh.Server

/-!
The command line. This build has no network: a request gets no reply, a connection is refused, and a
run is over after its first probe.
-/
namespace BridgeKeeper.CommandLine

/-- The files of the program below its directory. -/
def readDisk (directory : String) : IO Disk := do
  let mut disk := Disk.empty
  for path in [Program.settingsPath, Program.hostsPath, Program.logPath] do
    try
      let content ← IO.FS.readBinFile (directory ++ "/" ++ String.intercalate "/" path)
      let made := (disk.makeDirectories path.parent).2
      disk := (made.after (made.write path content.toList)).2
    catch _ => pure ()
  return disk

/-- Leaves the files of the program as they are on the disk, the directories around them first. -/
def writeDisk (directory : String) (d : Disk) : IO Unit := do
  IO.FS.createDirAll directory
  for (place, node) in d.nodes do
    if node = .directory then
      IO.FS.createDirAll (directory ++ "/" ++ String.intercalate "/" place)
  for (place, node) in d.nodes do
    match node with
    | .file content =>
      IO.FS.writeBinFile (directory ++ "/" ++ String.intercalate "/" place) ⟨content.toArray⟩
    | .directory => pure ()

/-- Runs the program in the home directory of its user. -/
def run (args : List String) : IO UInt32 := do
  let home := (← IO.getEnv "HOME").getD ""
  let directory := Program.directoryBelow home
  let time := Text.numeral (← IO.monoMsNow)
  let disk ← readDisk directory
  let offline : Url := ⟨[], [], [], none, none, .opaquePath [], none, none⟩
  let e := Program.run {
    home, disk, time, now := time
    service := ⟨offline, []⟩
    script := ⟨.refuse (.connection (Ssh.Error.protocol Ssh.refusal).message), 0⟩
    interruptAfter := 1 } args
  unless e.log.isEmpty do writeDisk directory e.disk
  IO.print e.output
  IO.eprint e.errors
  return UInt32.ofNat (e.exit.getD 130)

end BridgeKeeper.CommandLine

def main (args : List String) : IO UInt32 := BridgeKeeper.CommandLine.run args
