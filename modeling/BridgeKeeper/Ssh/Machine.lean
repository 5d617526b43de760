import BridgeKeeper.Ssh.Bind
import BridgeKeeper.Ssh.Session

/-!
A machine with its connections to one server and the listeners of its local forwards. The operations
stand here by which a connection serves what is queued, and by which listeners come and go.
-/
namespace BridgeKeeper.Ssh

/-- Connections are numbered in the order in which they are made. -/
abbrev LinkId := Nat

/-- A connection that is logged in. -/
structure Link where
  session : Session := {}
  /-- Whether the server keeps the connection. -/
  isUp : Bool := true
  /-- The forwards that the server has granted and not cancelled. -/
  grants : List (String × Nat) := []
  /-- Where connections go that come in through a forward of the server. -/
  target : Option (String × Nat) := none
  /-- When the connection was made. -/
  since : Nat := 0
  /-- The milliseconds between two looks whether the connection is lost. -/
  keepaliveMs : Nat := 0

/-- What stands at a number that no connection has yet. -/
def Link.blank : Link := { session := { owner := { stage := .over } }, isUp := false }

/-- How many looks there were up to a time. -/
def Link.looksUntil (x : Link) (time : Nat) : Nat := (time - x.since) / max 1 x.keepaliveMs

/-- A listener whose connections go through a channel each to a host behind the server. -/
structure Listener where
  link : LinkId
  address : Address
  port : Nat
  host : String
  hostPort : UInt16
  running : Bool := true
  /-- How many connections it took. -/
  connections : Nat := 0
deriving DecidableEq

/-- What stands at a number that no listener has yet. -/
def Listener.blank : Listener :=
  { link := 0, address := .loopback, port := 0, host := "", hostPort := 0, running := false }

structure Machine where
  server : Server
  /-- The milliseconds that went by so far. -/
  now : Nat := 0
  /-- The ports of 127.0.0.1 at which others listen. -/
  taken : List Nat := []
  /-- The ports of 127.0.0.1 at which services send back what they get. -/
  echoes : List Nat := []
  links : LinkId → Link := fun _ => .blank
  linked : Nat := 0
  listeners : ListenerId → Listener := fun _ => .blank
  listened : Nat := 0
  /-- What the server saw so far, the first sight first. -/
  seen : List Sight := []
  /-- What the system objects to listeners at a port, such as one below 1024. -/
  barred : UInt16 → Option BindFault := fun _ => none

namespace Machine

def session (m : Machine) (k : LinkId) : Session := (m.links k).session
def owner (m : Machine) (k : LinkId) : Owner := (m.links k).session.owner
def isAlive (m : Machine) (k : LinkId) : Bool := (m.session k).isAlive

def setLink (m : Machine) (k : LinkId) (x : Link) : Machine := { m with links := put m.links k x }

def setSession (m : Machine) (k : LinkId) (s : Session) : Machine :=
  m.setLink k { m.links k with session := s }

def onOwner (m : Machine) (k : LinkId) (x : Owner.Event) : Machine :=
  m.setSession k ((m.session k).apply (.owner x))

def see (m : Machine) (x : Sight) : Machine := { m with seen := m.seen ++ [x] }

/-- The address from which channels are opened. -/
def originator : String := "127.0.0.1"

/-- The server loses a connection, and with it all that it granted there. -/
def cut (m : Machine) (k : LinkId) : Machine :=
  if (m.links k).isUp then
    (m.setLink k { m.links k with isUp := false, grants := [] }).see .closed
  else m

/-- Carries out a command on a connection. A connection that the server dropped answers nothing. -/
def perform (m : Machine) (k : LinkId) (c : Command) : Except String Grant × Machine :=
  let x := m.links k
  if x.isUp then
    match c with
    | .channel host port =>
      (if m.server.rejectsChannels then .error prohibited else .ok .channel,
        m.see (.channel host port originator))
    | .forward address port =>
      let m := m.see (.forward address port)
      if m.server.dropsForwards then (.error ended, m.cut k)
      else if m.server.rejectsForwards then (.error rejected, m)
      else
        (.ok (.listening (m.server.heardPort port)),
          m.setLink k { x with grants := x.grants ++ [(address, m.server.grantedPort port)] })
    | .cancel address port =>
      let m := m.see (.cancel address port)
      if m.server.rejectsCancels then (.error rejected, m)
      else (.ok .cancelled, m.setLink k { x with grants := x.grants.erase (address, port) })
    | .disconnect => (.error ended, m)
  else (.error unreachable, m)

/-- Stops a listener, which then sends no more commands. -/
def stopListener (m : Machine) (l : ListenerId) : Machine :=
  let x := m.listeners l
  if x.running then
    { m with listeners := put m.listeners l { x with running := false } }.onOwner x.link .release
  else m

/-- Stops the listeners of a connection. -/
def stopListenersOf (m : Machine) (k : LinkId) : Machine :=
  ((List.range m.listened).filter fun l => (m.listeners l).link = k).foldl stopListener m

/-- Lets the callers fill the places that are kept for them. -/
def fillPlaces (m : Machine) (k : LinkId) : Machine :=
  (m.owner k).placed.foldl (fun m j => m.onOwner k (.enter j.ticket)) m

/-- Lets the owner of a connection take one command and carry it out to its end. Callers go on while
the connection is at work. -/
def serveOne (m : Machine) (k : LinkId) : Machine :=
  let m := m.onOwner k .take
  match (m.owner k).stage with
  | .executing j =>
    let (r, m) := (m.fillPlaces k).perform k j.command
    let m := m.onOwner k (.result r)
    match (m.owner k).stage with
    | .revoking address port =>
      let (r, m) := m.perform k (.cancel address port)
      m.onOwner k (.result r)
    | _ => m
  | .leaving => (((m.onOwner k .notify).stopListenersOf k).cut k).onOwner k .finish
  | _ => m

/-- Lets the owner of a connection take `n` commands, or less if there are less. -/
def serveMany (m : Machine) (k : LinkId) : Nat → Machine
  | 0 => m
  | n + 1 => (m.serveOne k).serveMany k n

/-- Lets the owner of a connection serve all that is requested of it. -/
def serve (m : Machine) (k : LinkId) : Machine :=
  m.serveMany k
    ((m.owner k).queue.length + (m.owner k).placed.length + (m.owner k).waiting.length + 1)

/-- Requests a command and lets it be served. -/
def request (m : Machine) (k : LinkId) (c : Command) : Except Error Grant × Machine :=
  let t := (m.owner k).requests
  let m := (m.onOwner k (.request c)).serve k
  (((m.owner k).answer? t).getD (.error .disconnected), m)

/-- Disconnects a connection. -/
def disconnect (m : Machine) (k : LinkId) : Machine := (m.onOwner k (.request .disconnect)).serve k

/-- Whether someone listens at a port in the way of a new listener. -/
def inUse (m : Machine) (address : Address) (port : Nat) : Bool :=
  ((m.taken.contains port || m.echoes.contains port) && address.overlaps .loopback) ||
    (List.range m.listened).any fun l =>
      let x := m.listeners l
      x.running && x.port = port && address.overlaps x.address

/-- A free port, which is what listening at port zero gives. -/
def freshPort (m : Machine) : Nat := 32768 + m.listened

/-- Listens at an address of this machine and forwards the connections. The number of the listener
was `listened` before. -/
def listen (m : Machine) (k : LinkId) (address : String) (host : String) (hostPort : UInt16) :
    Except Error Machine :=
  match BindAddress.parse address.toList with
  | .error f => .error (f.error address)
  | .ok a =>
    match m.barred a.port with
    | some f => .error (f.error address)
    | none =>
      let port := if a.port = 0 then m.freshPort else a.port.toNat
      if m.inUse a.address port then .error (BindFault.inUse.error address)
      else
        let x : Listener := { link := k, address := a.address, port, host, hostPort }
        .ok ({ m with
          listeners := put m.listeners m.listened x
          listened := m.listened + 1 }.onOwner k .share)

/-- The server drops a connection. -/
def drop (m : Machine) (k : LinkId) : Machine := m.cut k

/-- Looks whether a connection is lost. -/
def check (m : Machine) (k : LinkId) : Machine :=
  if (m.links k).isUp then m
  else
    let m := m.onOwner k .lose
    if (m.owner k).stage = .leaving then
      ((m.onOwner k .notify).stopListenersOf k).onOwner k .finish
    else m

/-- Time goes by, and every connection is looked after whose time for it comes. -/
def sleep (m : Machine) (ms : Nat) : Machine :=
  let isDue (k : LinkId) : Bool :=
    (m.links k).looksUntil m.now < (m.links k).looksUntil (m.now + ms)
  ((List.range m.linked).filter isDue).foldl check { m with now := m.now + ms }

/-- Waits until it is noticed that a connection is lost. -/
def awaitLoss (m : Machine) (k : LinkId) : Machine :=
  let x := m.links k
  let period := max 1 x.keepaliveMs
  if x.isUp || !m.isAlive k then m else m.sleep (period - (m.now - x.since) % period)

end Machine
end BridgeKeeper.Ssh
