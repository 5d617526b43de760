import BridgeKeeper.Command
import BridgeKeeper.Provision
import BridgeKeeper.Supervisor

/-!
The program as a whole: what the command line prints, leaves behind and exits with, given all that
it meets.
-/
namespace BridgeKeeper.Program

def version : String := "0.1.0"

/-- The files of the program, in the directory of its settings. -/
def settingsPath : Disk.Path := ["config.json"]
def hostsPath : Disk.Path := ["hosts.json"]
def logPath : Disk.Path := ["logs", "startup.log"]

/-- The directory of the settings below a home directory. -/
def directoryBelow (home : String) : String := home ++ "/.connbridge"

/-- What the program meets: its home, the files there, the directory service, how connections are
answered, after how many requests it is interrupted, and the time. -/
structure Environment where
  home : String
  disk : Disk
  service : Directory.Service
  script : Bridge.Script
  interruptAfter : Nat
  time : String
  now : String

/-- What a run of the program comes to: what it prints, the lines it logs, its requests, and the disk
with all files, the log among them. A program that is killed has no exit code. -/
structure Effect where
  exit : Option Nat := some 0
  output : String := ""
  errors : String := ""
  log : List String := []
  traffic : Directory.Traffic := []
  disk : Disk

/-- The lines that every run logs that does work. -/
def openingLog : List String := ["ConnBridge starting...", "Logging initialized"]

/-- Adds lines to the log, each behind the time. A log that cannot be written is done without. -/
def writeLog (now : String) (lines : List String) (d : Disk) : Disk :=
  if lines.isEmpty then d
  else
    let d := (d.makeDirectories logPath.parent).2
    let before := ((d.read logPath).toOption).getD []
    let added := lines.flatMap fun l => Text.Utf8.encode ("[" ++ now ++ "] " ++ l ++ "\n").toList
    (d.after (d.write logPath (before ++ added))).2

def succeed (e : Effect) : Effect := { e with log := openingLog ++ ["ConnBridge stopped"] }

def fail (reason : String) (e : Effect) : Effect :=
  { e with exit := some 1, log := openingLog ++ ["ConnBridge failed: " ++ reason] }

/-- Fetches credentials into the stored hosts. -/
def provision (x : Environment) (s : Settings) (account password : String) (d : Disk) : Effect :=
  match Directory.Client.ofSettings s.directory with
  | .error e => fail e.message { disk := d }
  | .ok c =>
    match Provision.run c account password x.service [] hostsPath x.time d with
    | (.error e, traffic, d) => fail e.message { traffic, disk := d }
    | (.ok r, traffic, d) =>
      succeed {
        output := "Provisioned " ++ r.nickname ++ " (" ++ directoryBelow x.home ++ "/hosts.json)\n"
        traffic, disk := d }

/-- A supervised run until the program is interrupted. Before the probes the interruption is not
waited for, and kills the program. -/
def supervise (x : Environment) (s : Settings) (d : Disk) : Effect :=
  let shutsDown (t : Directory.Traffic) : Bool := x.interruptAfter ≤ t.length
  let surroundings : Supervisor.Surroundings :=
    ⟨Host.Store.source hostsPath x.time d, x.script, x.service, shutsDown, x.now⟩
  match Supervisor.supervise s surroundings x.interruptAfter with
  | .error e => fail e.message { disk := d }
  | .ok (traffic, done) =>
    let disk := (Host.Store.load hostsPath x.time d).2
    if done.prober.requests = 0 ∧ 0 < x.interruptAfter then
      { exit := none, log := openingLog, traffic, disk }
    else succeed { traffic, disk }

/-- Runs a command; the settings are read first. -/
def execute (x : Environment) (c : Command) : Effect :=
  match Settings.load settingsPath x.time x.disk with
  | (.error e, d) => fail e.message { disk := d }
  | (.ok s, d) =>
    match c with
    | .run => supervise x s d
    | .provision account password => provision x s account password d
    | .version => succeed { disk := d }

/-- Runs the program with some arguments. -/
def run (x : Environment) (args : List String) : Effect :=
  match Command.parse args with
  | .error e =>
    { exit := some 2, errors := e.message ++ "\n\n" ++ Command.usage ++ "\n", disk := x.disk }
  | .ok .version => { output := "connbridge " ++ version ++ "\n", disk := x.disk }
  | .ok c =>
    let e := execute x c
    { e with disk := writeLog x.now e.log e.disk }

end BridgeKeeper.Program
