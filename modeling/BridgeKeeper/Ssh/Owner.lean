import BridgeKeeper.Ssh.Server

/-!
The owner of a connection takes commands from a queue, one after the other, and answers each to its
caller. It stops when it is told to disconnect, when the connection is lost, or when nobody is left
who could send it a command; what is queued by then is answered with an error.

The queue has room for a number of commands. Who finds it full waits, first come first served, until a
place is kept for it, and puts its command there when it next goes on.
-/
namespace BridgeKeeper.Ssh

inductive Command where
  /-- Opens a channel to a host behind the server. -/
  | channel (host : String) (port : Nat)
  /-- Asks the server to listen. -/
  | forward (address : String) (port : Nat)
  /-- Asks the server to stop listening. -/
  | cancel (address : String) (port : Nat)
  | disconnect
deriving DecidableEq

/-- The error of a command that was refused for a reason. -/
def Command.failure (c : Command) (reason : String) : Error :=
  match c with
  | channel _ _ => .channel reason
  | forward _ _ | cancel _ _ => .forwarding reason
  | disconnect => .disconnected

/-- What a connection answers to a command. -/
inductive Grant where
  | channel
  | listening (port : Nat)
  | cancelled
deriving DecidableEq

/-- Commands are numbered in the order in which they are requested. -/
abbrev Ticket := Nat

structure Job where
  ticket : Ticket
  command : Command
deriving DecidableEq

namespace Owner

inductive Stage where
  /-- Waits for a command. -/
  | serving
  | executing (j : Job)
  /-- Cancels a forward that was granted to a caller who is gone. -/
  | revoking (address : String) (port : Nat)
  /-- The queue is closed. -/
  | leaving
  /-- The end was notified. -/
  | closing
  | over
deriving DecidableEq

end Owner

structure Owner where
  stage : Owner.Stage := .serving
  queue : List Job := []
  /-- Requests for which a place in the queue is kept that their callers have not filled yet. -/
  placed : List Job := []
  /-- Requests for which the queue has no room yet. -/
  waiting : List Job := []
  requests : Nat := 0
  /-- The callers that are gone. -/
  gone : List Ticket := []
  /-- The answers so far, the first one first. -/
  answers : List (Ticket × Except Error Grant) := []
  /-- The commands that were queued so far, the first one first. -/
  queued : List Job := []
  /-- The commands that were executed on the connection so far. -/
  executed : List Job := []
  /-- The forwards that were revoked so far. -/
  revoked : List (String × Nat) := []
  /-- How often the end was notified. -/
  notices : Nat := 0
  /-- How many can send commands. -/
  controllers : Nat := 1

namespace Owner

/-- How many commands the queue holds. -/
def capacity : Nat := 64

/-- Whether the queue takes commands. -/
def isOpen (o : Owner) : Bool :=
  match o.stage with
  | .serving | .executing _ | .revoking _ _ => true
  | .leaving | .closing | .over => false

/-- Answers a caller, unless it is gone. Nobody waits for an answer to `disconnect`. -/
def reply (o : Owner) (j : Job) (r : Except Error Grant) : Owner :=
  if j.command = .disconnect ∨ j.ticket ∈ o.gone then o
  else { o with answers := o.answers ++ [(j.ticket, r)] }

def answer? (o : Owner) (t : Ticket) : Option (Except Error Grant) := o.answers.lookup t

/-- Puts a command at the end of the queue. -/
def enqueue (o : Owner) (j : Job) : Owner :=
  { o with queue := o.queue ++ [j], queued := o.queued ++ [j] }

/-- Requests a command. Its number was `requests` before. -/
def request (o : Owner) (c : Command) : Owner :=
  let j : Job := ⟨o.requests, c⟩
  let o := { o with requests := o.requests + 1 }
  if o.isOpen then
    if o.queue.length + o.placed.length < capacity then o.enqueue j
    else { o with waiting := o.waiting ++ [j] }
  else o.reply j (.error .disconnected)

/-- Keeps a place that became free for the one who waits longest. -/
def keepPlace (o : Owner) : Owner :=
  { o with placed := o.placed ++ o.waiting.take 1, waiting := o.waiting.drop 1 }

/-- A caller fills the place that is kept for it. -/
def enter (o : Owner) (t : Ticket) : Owner :=
  match o.placed.find? (·.ticket = t) with
  | some j => { o with placed := o.placed.erase j }.enqueue j
  | none => o

/-- A caller does not wait any longer. What it requested stays in the queue, but not what has no
room there yet; a place that it did not fill is free again. -/
def forget (o : Owner) (t : Ticket) : Owner :=
  if t < o.requests then
    let o := { o with gone := t :: o.gone, waiting := o.waiting.filter fun j => j.ticket != t }
    match o.placed.find? (·.ticket = t) with
    | some j => { o with placed := o.placed.erase j }.keepPlace
    | none => o
  else o

/-- Closes the queue and answers what is in it. Who still waits for room is turned away. -/
def leave (o : Owner) : Owner :=
  let o := o.queue.foldl (fun o j => o.reply j (.error (j.command.failure ended))) o
  let o := (o.placed ++ o.waiting).foldl (fun o j => o.reply j (.error .disconnected)) o
  { o with stage := .leaving, queue := [], placed := [], waiting := [] }

/-- Takes the next command, if the owner waits for one. -/
def take (o : Owner) : Owner :=
  match o.stage, o.queue with
  | .serving, j :: rest =>
    let o := { o with queue := rest }.keepPlace
    match j.command with
    | .disconnect => o.leave
    | _ => { o with stage := .executing j, executed := o.executed ++ [j] }
  | .serving, [] => if o.controllers = 0 then o.leave else o
  | _, _ => o

/-- Goes on with what the connection answered. -/
def result (o : Owner) (r : Except String Grant) : Owner :=
  match o.stage with
  | .executing j =>
    match j.command, r with
    | .forward address _, .ok (.listening port) =>
      if j.ticket ∈ o.gone then
        { o with stage := .revoking address port, revoked := o.revoked ++ [(address, port)] }
      else { o.reply j (.ok (.listening port)) with stage := .serving }
    | c, r => { o.reply j (r.mapError c.failure) with stage := .serving }
  | .revoking _ _ => { o with stage := .serving }
  | _ => o

/-- The connection is found to be lost, which is looked for between two commands. -/
def lose (o : Owner) : Owner := if o.stage = .serving then o.leave else o

/-- Notifies the end. -/
def notify (o : Owner) : Owner :=
  if o.stage = .leaving then { o with stage := .closing, notices := o.notices + 1 } else o

/-- Ends the connection. -/
def finish (o : Owner) : Owner := if o.stage = .closing then { o with stage := .over } else o

/-- What can happen to an owner. -/
inductive Event where
  | request (c : Command)
  | enter (t : Ticket)
  | forget (t : Ticket)
  /-- Another one can send commands. -/
  | share
  /-- One less can send commands. -/
  | release
  | take
  | result (r : Except String Grant)
  | lose
  | notify
  | finish

def apply (o : Owner) : Event → Owner
  | .request c => o.request c
  | .enter t => o.enter t
  | .forget t => o.forget t
  | .share => { o with controllers := o.controllers + 1 }
  | .release => { o with controllers := o.controllers - 1 }
  | .take => o.take
  | .result r => o.result r
  | .lose => o.lose
  | .notify => o.notify
  | .finish => o.finish

/-- An owner after some events. -/
def run (o : Owner) (xs : List Event) : Owner := xs.foldl apply o

end Owner
end BridgeKeeper.Ssh
