import BridgeKeeper.Json.Decode
import BridgeKeeper.Text.Printable

/-!
Port forwarding rules. A local rule listens beside the client and connects from the server; a
remote rule listens at the server and connects from the client.
-/
namespace BridgeKeeper.Forward

structure Rule where
  nickname : String
  isRemote : Bool
  sourcePort : UInt16
  destinationHost : String
  destinationPort : UInt16
deriving DecidableEq

/-- Why a rule cannot be applied. -/
inductive Fault where
  | invalidPort (nickname : String) (source destination : UInt16)
  | noDestination (nickname : String)
deriving DecidableEq

def Fault.message : Fault → String
  | invalidPort nickname source destination =>
    "forwarding '" ++ nickname ++ "' has an invalid port (" ++ Text.numeral source.toNat ++
      " -> " ++ Text.numeral destination.toNat ++ ")"
  | noDestination nickname => "forwarding '" ++ nickname ++ "' has no destination host"

namespace Rule

/-- Both ports must differ from zero and the destination must not be blank. -/
def check (r : Rule) : Except Fault Unit :=
  if r.sourcePort = 0 ∨ r.destinationPort = 0 then
    .error (.invalidPort r.nickname r.sourcePort r.destinationPort)
  else if Text.isBlank r.destinationHost then .error (.noDestination r.nickname)
  else .ok ()

/-- The destination as `host:port`. -/
def destination (r : Rule) : String :=
  r.destinationHost ++ ":" ++ Text.numeral r.destinationPort.toNat

/-- A short form such as `L 8080 -> localhost:80`. -/
def describe (r : Rule) : String :=
  (if r.isRemote then "R " else "L ") ++ Text.numeral r.sourcePort.toNat ++ " -> " ++ r.destination

def fieldNames : List String :=
  ["nickname", "isRemote", "sourcePort", "destinationHost", "destinationPort"]

def ofJson? (v : Json.Value) : Option Rule := do
  let f ← v.fields? fieldNames
  return {
    nickname := ← f.required "nickname" Json.Value.text?
    isRemote := ← f.required "isRemote" Json.Value.bool?
    sourcePort := ← f.required "sourcePort" Json.Value.uint16?
    destinationHost := ← f.required "destinationHost" Json.Value.text?
    destinationPort := ← f.required "destinationPort" Json.Value.uint16? }

def toJson (r : Rule) : Json.Value := .record [
  ("nickname", .text r.nickname),
  ("isRemote", .bool r.isRemote),
  ("sourcePort", .nat r.sourcePort.toNat),
  ("destinationHost", .text r.destinationHost),
  ("destinationPort", .nat r.destinationPort.toNat)]

/-- All fields, for diagnostic messages. -/
def debug (r : Rule) : String :=
  "PortForwarding \x7b nickname: " ++ Text.quoted r.nickname ++
    ", is_remote: " ++ (if r.isRemote then "true" else "false") ++
    ", source_port: " ++ Text.numeral r.sourcePort.toNat ++
    ", destination_host: " ++ Text.quoted r.destinationHost ++
    ", destination_port: " ++ Text.numeral r.destinationPort.toNat ++ " \x7d"

end Rule
end BridgeKeeper.Forward
