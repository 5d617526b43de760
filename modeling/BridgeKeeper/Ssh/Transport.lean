import BridgeKeeper.Forward.Rule
import BridgeKeeper.Ssh.Machine

/-!
Sessions over SSH: a connection with a password login, and at most one forward. Either all of it is
set up, or the connection is ended again.
-/
namespace BridgeKeeper.Ssh

/-- How connections are made: where those go that come in through a forward of the server, and how
often they are looked after. -/
structure Plan where
  target : Option (String × Nat) := none
  keepaliveMs : Nat := 0

/-- Where the server listens for a forward. -/
def forwardAddress : String := "localhost"

namespace Machine

/-- A machine with one more connection. Its number was `linked` before. -/
def addLink (m : Machine) (p : Plan) : Machine :=
  let x : Link := { target := p.target, since := m.now, keepaliveMs := p.keepaliveMs }
  { m with links := put m.links m.linked x, linked := m.linked + 1 }

/-- Connects and logs in. -/
def connect (m : Machine) (user password : String) (p : Plan) : Except Error LinkId × Machine :=
  match m.server.fault? with
  | some e => (.error e, m)
  | none =>
    let m := if m.server.leavesEarly then m else m.see (.login user password)
    if m.server.accepts user password then
      let k := m.linked
      let m := m.addLink p
      (.ok k, if m.server.dropsSessions then m.cut k else m)
    else (.error (m.server.loginFailure user), m.see .closed)

/-- Sets up the forward of a rule. -/
def setUp (m : Machine) (k : LinkId) (r : Forward.Rule) : Except Error Active × Machine :=
  if r.isRemote then
    match m.request k (.forward forwardAddress r.sourcePort.toNat) with
    | (.ok (.listening port), m) => (.ok (.granted forwardAddress port), m)
    | (.ok _, m) => (.error .disconnected, m)
    | (.error e, m) => (.error e, m)
  else
    let address := originator ++ ":" ++ Text.numeral r.sourcePort.toNat
    match m.listen k address r.destinationHost r.destinationPort with
    | .ok x => (.ok (.listener m.listened), x)
    | .error e => (.error e, m)

/-- Where connections go that come in through the forward of a rule. -/
def targetOf? (r : Option Forward.Rule) : Option (String × Nat) := do
  let r ← r
  if r.isRemote then some (r.destinationHost, r.destinationPort.toNat) else none

/-- Opens a session, and ends its connection again if the forward cannot be set up. -/
def openSession (m : Machine) (user password : String) (rule : Option Forward.Rule)
    (keepaliveMs : Nat) : Except Error LinkId × Machine :=
  match m.connect user password ⟨targetOf? rule, keepaliveMs⟩ with
  | (.error e, m) => (.error e, m)
  | (.ok k, m) =>
    match rule with
    | none => (.ok k, m)
    | some r =>
      match m.setUp k r with
      | (.ok a, m) => (.ok k, m.setSession k { m.session k with forward := some a })
      | (.error e, m) => (.error e, m.disconnect k)

/-- Goes on with a call that closes a session, and serves what it requests. -/
def advanceClosing (m : Machine) (k : LinkId) (n : Nat) : Machine :=
  let before := (m.session k).stopped
  let m := m.setSession k ((m.session k).apply (.advance n))
  (((m.session k).stopped.drop before.length).foldl stopListener m).serve k

/-- Closes a session. It takes at most four steps to return. -/
def closeSession (m : Machine) (k : LinkId) : Machine :=
  let n := (m.session k).called
  let m := m.setSession k ((m.session k).apply .close)
  (List.range 4).foldl (fun m _ => m.advanceClosing k n) m

/-- Opens a channel and sends some data through it. -/
def exchange (m : Machine) (k : LinkId) (host : String) (port : Nat) (data : String) :
    Except Error String × Machine :=
  let (r, m) := m.request k (.channel host port)
  (r.map fun _ => Server.echo data, m)

/-- The listener at a port of 127.0.0.1. -/
def listenerAt? (m : Machine) (port : Nat) : Option ListenerId :=
  (List.range m.listened).find? fun l =>
    let x := m.listeners l
    x.running && x.port = port && x.address.overlaps .loopback

/-- Sends some data through a listener that takes a connection. One that gets no channel is closed
without a reply. -/
def visit (m : Machine) (l : ListenerId) (data : String) : String × Machine :=
  let x := m.listeners l
  let m := { m with listeners := put m.listeners l { x with connections := x.connections + 1 } }
  let (r, m) := m.exchange x.link x.host x.hostPort.toNat data
  (r.toOption.getD "", m)

/-- Connects to a port of 127.0.0.1 and sends some data; nothing comes back where nobody listens. -/
def dial (m : Machine) (port : Nat) (data : String) : Option String × Machine :=
  match m.listenerAt? port with
  | some l =>
    let (reply, m) := m.visit l data
    (some reply, m)
  | none => (if m.echoes.contains port then some (Server.echoed data) else none, m)

/-- What comes back to data that the server sends through a forward of a connection: what the service
at the target says, and nothing where there is no such service. -/
def incoming (m : Machine) (k : LinkId) (data : String) : String :=
  match (m.links k).target with
  | some (host, port) =>
    if (Address.ofHost? host.toList).any Address.meetsLoopback && m.echoes.contains port
    then Server.echoed data else ""
  | none => ""

/-- Requests a command whose caller goes away at once. -/
def abandon (m : Machine) (k : LinkId) (c : Command) : Machine :=
  let t := (m.owner k).requests
  ((m.onOwner k (.request c)).onOwner k (.forget t)).serve k

/-- Requests commands in a row, and lets them be served only then. -/
def requestAll (m : Machine) (k : LinkId) (cs : List Command) :
    List (Option (Except Error Grant)) × Machine :=
  let first := (m.owner k).requests
  let m := (cs.foldl (fun m c => m.onOwner k (.request c)) m).serve k
  ((List.range cs.length).map fun n => (m.owner k).answer? (first + n), m)

/-- Gives up the right to send commands. -/
def release (m : Machine) (k : LinkId) : Machine := (m.onOwner k .release).serve k

/-- Stops a listener, and its connection too if nobody else can send it commands. -/
def stop (m : Machine) (l : ListenerId) : Machine := (m.stopListener l).serve (m.listeners l).link

end Machine
end BridgeKeeper.Ssh
