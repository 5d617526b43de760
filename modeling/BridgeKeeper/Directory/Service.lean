import BridgeKeeper.Directory.Client

/-!
A directory service that gives prepared replies in turn, and the traffic with it.
-/
namespace BridgeKeeper.Directory

/-- The place of a service and the replies it gives, of which the last one repeats. -/
structure Service where
  origin : Url
  replies : List Reply

namespace Service

/-- Whether a request for the URL comes to this service. -/
def serves (s : Service) (u : Url) : Bool :=
  u.scheme == s.origin.scheme && u.host == s.origin.host && u.port == s.origin.port

/-- The reply to the request of a number; a service without replies knows no page. -/
def reply (s : Service) (k : Nat) : Reply :=
  match s.replies[k]? with
  | some r => r
  | none => s.replies.getLast?.getD (.response 404 [])

end Service

/-- The requests that came to a service so far, the first one first. -/
abbrev Traffic := List Request

/-- Sends the request of a call, if it can be sent. What comes to no service is lost. -/
def Call.send {α : Type} (c : Call α) (s : Service) (t : Traffic) : Except Error α × Traffic :=
  if c.request.isSendable && s.serves c.request.url then (c.answer (s.reply t.length), t ++ [c.request])
  else (c.answer .lost, t)

/-- A response as it comes over the wire. A status has three digits; of the informational ones only
101, which changes the protocol, is a response; and without content are 101, 204 and 304. -/
def Reply.ofResponse (status : Nat) (body : List UInt8) : Reply :=
  if 999 < status ∨ status < 200 ∧ status ≠ 101 then .lost
  else if status = 101 ∨ status = 204 ∨ status = 304 then .response status []
  else .response status body

end BridgeKeeper.Directory
