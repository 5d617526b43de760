import BridgeKeeper.Credentials
import BridgeKeeper.Text.Printable
import BridgeKeeper.Url.Edit
import BridgeKeeper.Url.Printer

/-!
Stored hosts: how to log in, under which nickname, for which account, and when last. The nickname is the
identity of a host, and also what the fragment of its URI decodes to.
-/
namespace BridgeKeeper

structure Identity where
  name : String
deriving DecidableEq

namespace Identity

/-- A blank nickname names no host. -/
def ofNickname? (nickname : String) : Option Identity :=
  if Text.isBlank nickname then none else some ⟨nickname⟩

/-- The identity that the fragment of a URI names. The fragment is percent-decoded and must be
UTF-8 then. -/
def ofUri? (uri : String) : Option Identity := do
  let u ← (Url.parse uri.toList).toOption
  let fragment ← u.fragment
  let name ← Text.Utf8.decode? (Text.Percent.decode fragment)
  ofNickname? (String.ofList name)

end Identity

namespace Host

structure Record where
  nickname : String
  protocol : String
  username : String
  hostname : String
  port : UInt16
  password : String
  email : String
  /-- Seconds since 1970 of the last connection; negative when there was none. -/
  lastConnect : Int64
deriving DecidableEq

/-- The time of a host that never connected. -/
def neverConnected : Int64 := -1

namespace Record

/-- The URI `protocol://username@hostname:port/#nickname`, where that is one. -/
def uri? (r : Record) : Option Url := do
  let place := r.protocol ++ "://" ++ r.hostname ++ ":" ++ Text.numeral r.port.toNat ++ "/"
  let u ← (Url.parse place.toList).toOption
  let u ← if r.username.isEmpty then some u else u.setUsername? r.username.toList
  return u.setFragment r.nickname.toList

/-- The nickname, for a host that has a URI. -/
def identity? (r : Record) : Option Identity := do
  let _ ← r.uri?
  Identity.ofNickname? r.nickname

/-- `user@host`, with the port where it is not the default; empty without user or host. -/
def displayName (r : Record) : String :=
  if r.username.isEmpty || r.hostname.isEmpty then ""
  else if r.port = defaultPort then r.username ++ "@" ++ r.hostname
  else r.username ++ "@" ++ r.hostname ++ ":" ++ Text.numeral r.port.toNat

def hasConnected (r : Record) : Bool := 0 ≤ r.lastConnect

def credentials (r : Record) (rules : List Forward.Rule) : Credentials :=
  ⟨r.hostname, r.username, r.password, r.port, rules⟩

/-- The host that an account's credentials stand for, named by how it is displayed. -/
def provisioned (c : Credentials) (account : String) : Record :=
  let r : Record := ⟨"", "ssh", c.user, c.host, c.port, c.password, account, neverConnected⟩
  { r with nickname := r.displayName }

def fieldNames : List String :=
  ["nickname", "protocol", "username", "hostname", "port", "password", "email", "lastConnect"]

def ofFields? (f : Json.Fields) : Option Record := do
  return {
    nickname := ← f.required "nickname" Json.Value.text?
    protocol := ← f.optional "protocol" Json.Value.text? "ssh"
    username := ← f.required "username" Json.Value.text?
    hostname := ← f.required "hostname" Json.Value.text?
    port := ← f.optional "port" Json.Value.uint16? defaultPort
    password := ← f.optional "password" Json.Value.text? ""
    email := ← f.optional "email" Json.Value.text? ""
    lastConnect := ← f.optional "lastConnect" Json.Value.int64? neverConnected }

def ofJson? (v : Json.Value) : Option Record := do
  ofFields? (← v.fields? fieldNames)

def members (r : Record) : List (String × Json.Value) := [
  ("nickname", .text r.nickname),
  ("protocol", .text r.protocol),
  ("username", .text r.username),
  ("hostname", .text r.hostname),
  ("port", .nat r.port.toNat),
  ("password", .text r.password),
  ("email", .text r.email),
  ("lastConnect", .int r.lastConnect.toInt)]

def toJson (r : Record) : Json.Value := .record r.members

/-- All fields but the password, for diagnostic messages. -/
def debug (r : Record) : String :=
  "HostRecord \x7b nickname: " ++ Text.quoted r.nickname ++
    ", protocol: " ++ Text.quoted r.protocol ++ ", username: " ++ Text.quoted r.username ++
    ", hostname: " ++ Text.quoted r.hostname ++ ", port: " ++ Text.numeral r.port.toNat ++
    ", email: " ++ Text.quoted r.email ++ ", last_connect: " ++
    String.ofList (Text.decimalInt r.lastConnect.toInt) ++ " \x7d"

end Record
end Host
end BridgeKeeper
