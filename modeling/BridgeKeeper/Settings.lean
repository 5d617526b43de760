import BridgeKeeper.Disk.JsonFile
import BridgeKeeper.Json.Decode

/-!
The settings of the program. Every one of them has a default, and a written value stands for an
overlay of the defaults. So do a missing file and one that does not decode; one of a newer version is
refused.
-/
namespace BridgeKeeper.Settings

/-- Where the directory service is, and how long one request may take. -/
structure DirectoryService where
  baseUrl : String := "http://superdeputy.com/ws/1/proxy/"
  timeoutSecs : UInt64 := 10
deriving DecidableEq

structure Probing where
  defaultPort : UInt16 := 1022
  periodSecs : UInt64 := 30
  initialDelayMs : UInt64 := 100
deriving DecidableEq

structure Sessions where
  connectTimeoutSecs : UInt64 := 30
  keepaliveIntervalSecs : UInt64 := 30
  keepaliveMax : UInt64 := 3
deriving DecidableEq

/-- The newest version of the written form that is understood. -/
def supportedVersion : UInt32 := 1

end Settings

structure Settings where
  version : UInt32 := Settings.supportedVersion
  directory : Settings.DirectoryService := {}
  probing : Settings.Probing := {}
  sessions : Settings.Sessions := {}
deriving DecidableEq

namespace Settings

open Json (Value)

def DirectoryService.ofJson? (v : Value) : Option DirectoryService := do
  let f ← v.fields? ["base_url", "timeout_secs"]
  let d : DirectoryService := {}
  return {
    baseUrl := ← f.optional "base_url" Value.text? d.baseUrl
    timeoutSecs := ← f.optional "timeout_secs" Value.uint64? d.timeoutSecs }

def DirectoryService.toJson (s : DirectoryService) : Value := .record [
  ("base_url", .text s.baseUrl),
  ("timeout_secs", .nat s.timeoutSecs.toNat)]

def Probing.ofJson? (v : Value) : Option Probing := do
  let f ← v.fields? ["default_port", "period_secs", "initial_delay_ms"]
  let d : Probing := {}
  return {
    defaultPort := ← f.optional "default_port" Value.uint16? d.defaultPort
    periodSecs := ← f.optional "period_secs" Value.uint64? d.periodSecs
    initialDelayMs := ← f.optional "initial_delay_ms" Value.uint64? d.initialDelayMs }

def Probing.toJson (s : Probing) : Value := .record [
  ("default_port", .nat s.defaultPort.toNat),
  ("period_secs", .nat s.periodSecs.toNat),
  ("initial_delay_ms", .nat s.initialDelayMs.toNat)]

def Sessions.ofJson? (v : Value) : Option Sessions := do
  let f ← v.fields? ["connect_timeout_secs", "keepalive_interval_secs", "keepalive_max"]
  let d : Sessions := {}
  return {
    connectTimeoutSecs := ← f.optional "connect_timeout_secs" Value.uint64? d.connectTimeoutSecs
    keepaliveIntervalSecs :=
      ← f.optional "keepalive_interval_secs" Value.uint64? d.keepaliveIntervalSecs
    keepaliveMax := ← f.optional "keepalive_max" Value.uint64? d.keepaliveMax }

def Sessions.toJson (s : Sessions) : Value := .record [
  ("connect_timeout_secs", .nat s.connectTimeoutSecs.toNat),
  ("keepalive_interval_secs", .nat s.keepaliveIntervalSecs.toNat),
  ("keepalive_max", .nat s.keepaliveMax.toNat)]

def ofJson? (v : Value) : Option Settings := do
  let f ← v.fields? ["version", "directory", "probe", "ssh"]
  let d : Settings := {}
  return {
    version := ← f.optional "version" Value.uint32? d.version
    directory := ← f.optional "directory" DirectoryService.ofJson? d.directory
    probing := ← f.optional "probe" Probing.ofJson? d.probing
    sessions := ← f.optional "ssh" Sessions.ofJson? d.sessions }

def toJson (s : Settings) : Value := .record [
  ("version", .nat s.version.toNat),
  ("directory", s.directory.toJson),
  ("probe", s.probing.toJson),
  ("ssh", s.sessions.toJson)]

/-! ## The file of the settings -/

/-- Refuses data of a version that is not understood yet. -/
def checkVersion (found : UInt32) : Except StorageError Unit :=
  if supportedVersion < found then .error (.versionTooNew found supportedVersion) else .ok ()

def load (p : Disk.Path) (time : String) (d : Disk) : Except StorageError Settings × Disk :=
  match Disk.load ofJson? p time d with
  | (.error e, d) => (.error e, d)
  | (.ok none, d) => (.ok {}, d)
  | (.ok (some s), d) => ((checkVersion s.version).map fun _ => s, d)

def save (s : Settings) (p : Disk.Path) (d : Disk) : Except StorageError Unit × Disk :=
  Disk.save s.toJson p d

end Settings
end BridgeKeeper
