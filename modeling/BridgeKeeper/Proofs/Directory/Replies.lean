import BridgeKeeper.Directory.Service

/-!
# What comes back for a request

A request that can be sent and gets to the service has its next reply; otherwise there is none. A reply
answers a call where its status and its body allow it, and else there is one of three reasons why not.
-/
namespace BridgeKeeper.Directory

variable {α : Type}

/-- What comes back for a request: the next reply of the service, where the request gets there. -/
def Service.replyTo (s : Service) (r : Request) (t : Traffic) : Reply :=
  if r.isSendable && s.serves r.url then s.reply t.length else .lost

theorem Call.send_fst (call : Call α) (s : Service) (t : Traffic) :
    (call.send s t).1 = call.answer (s.replyTo call.request t) := by
  rw [send, Service.replyTo]
  split <;> rfl

/-- A response with a status from 200 to 299 whose body stands for data. -/
def Reply.Carries (r : Reply) (read : Json.Value → Option α) (a : α) : Prop :=
  ∃ status body, r = .response status body ∧ (200 ≤ status ∧ status < 300) ∧
    Json.ofBytes? body >>= read = some a

/-- Why a reply is no answer to a request. -/
inductive Reply.Fails (request : Request) (read : Json.Value → Option α) : Reply → Error → Prop
  | lost : Fails request read .lost request.failure
  | status {status : Nat} (body : List UInt8) : ¬ (200 ≤ status ∧ status < 300) →
    Fails request read (.response status body) (.status status)
  | malformed {status : Nat} {body : List UInt8} : 200 ≤ status ∧ status < 300 →
    Json.ofBytes? body >>= read = none →
    Fails request read (.response status body)
      (.malformed (Text.Utf8.decodeLossy (body.take excerptLength)))

/-- A reply is either an answer or no answer, for one of three reasons. -/
theorem Call.answer_cases (call : Call α) (r : Reply) :
    (∃ e, call.answer r = .error e ∧ r.Fails call.request call.read e) ∨
      ∃ a, call.answer r = .ok a ∧ r.Carries call.read a := by
  cases r with
  | lost => exact Or.inl ⟨_, rfl, .lost⟩
  | response status body =>
    rw [answer]
    by_cases accepted : 200 ≤ status ∧ status < 300
    · rw [if_pos accepted]
      cases decoded : Json.ofBytes? body >>= call.read with
      | none => exact Or.inl ⟨_, rfl, .malformed accepted decoded⟩
      | some a => exact Or.inr ⟨a, rfl, status, body, rfl, accepted, decoded⟩
    · rw [if_neg accepted]
      exact Or.inl ⟨_, rfl, .status body accepted⟩

theorem Call.answer_eq_ok_iff {call : Call α} {r : Reply} {a : α} :
    call.answer r = .ok a ↔ r.Carries call.read a := by
  constructor
  · intro answered
    rcases call.answer_cases r with ⟨e, failed, -⟩ | ⟨b, same, carries⟩
    · rw [answered] at failed
      cases failed
    · rw [answered] at same
      cases same
      exact carries
  · rintro ⟨status, body, rfl, accepted, decoded⟩
    rw [answer, if_pos accepted, decoded]

end BridgeKeeper.Directory
