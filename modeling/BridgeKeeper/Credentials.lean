import BridgeKeeper.Forward.Rule

/-!
Login material for one host, with the forwarding rules that belong to it.
-/
namespace BridgeKeeper

structure Credentials where
  host : String
  user : String
  password : String
  port : UInt16
  rules : List Forward.Rule
deriving DecidableEq

/-- The port of a host that names none. -/
def defaultPort : UInt16 := 22

namespace Credentials

inductive Fault where
  | emptyHost
  | zeroPort (host : String)
  | rule (fault : Forward.Fault)
deriving DecidableEq

def Fault.message : Fault → String
  | emptyHost => "host is empty"
  | zeroPort host => "invalid port 0 for " ++ host
  | rule fault => fault.message

/-- The first fault in the order host, port, rules. -/
def check (c : Credentials) : Except Fault Unit :=
  if Text.isBlank c.host then .error .emptyHost
  else if c.port = 0 then .error (.zeroPort c.host)
  else c.rules.forM fun r => r.check.mapError .rule

/-- The login as `user@host:port`. -/
def target (c : Credentials) : String :=
  c.user ++ "@" ++ c.host ++ ":" ++ Text.numeral c.port.toNat

/-- The only rule that a bridge applies. -/
def firstRule? (c : Credentials) : Option Forward.Rule := c.rules.head?

def fieldNames : List String := ["host", "user", "pass", "port", "portForwarding"]

def ofJson? (v : Json.Value) : Option Credentials := do
  let f ← (v.renameKey "portForwardings" "portForwarding").fields? fieldNames
  return {
    host := ← f.required "host" Json.Value.text?
    user := ← f.required "user" Json.Value.text?
    password := ← f.required "pass" Json.Value.text?
    port := ← f.optional "port" Json.Value.uint16? defaultPort
    rules := ← f.optional "portForwarding" (Json.Value.list? Forward.Rule.ofJson?) [] }

def toJson (c : Credentials) : Json.Value := .record [
  ("host", .text c.host),
  ("user", .text c.user),
  ("pass", .text c.password),
  ("port", .nat c.port.toNat),
  ("portForwarding", .array (c.rules.map Forward.Rule.toJson))]

/-- All fields but the password, for diagnostic messages. -/
def debug (c : Credentials) : String :=
  "Credentials \x7b host: " ++ Text.quoted c.host ++ ", user: " ++ Text.quoted c.user ++
    ", pass: \"***\", port: " ++ Text.numeral c.port.toNat ++ ", port_forwardings: [" ++
    String.intercalate ", " (c.rules.map Forward.Rule.debug) ++ "] \x7d"

end Credentials
end BridgeKeeper
