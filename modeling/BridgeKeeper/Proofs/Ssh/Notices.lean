import BridgeKeeper.Proofs.Ssh.Answers
import BridgeKeeper.Ssh.Observed

/-!
# The end of a connection is notified once

An owner notifies its end after it closed its queue, and only then. A receiver that subscribed before
finds the notice once it looks, and loses nothing, because nothing is notified after that.
-/
namespace BridgeKeeper.Ssh

namespace Owner

variable {o o' : Owner} {x : Event}

def Stage.notices : Stage → Nat
  | .closing | .over => 1
  | .serving | .executing _ | .revoking _ _ | .leaving => 0

def Crowded (o : Owner) : Prop := o.waiting = [] ∨ capacity ≤ o.queue.length + o.placed.length

theorem closed_of_notices (notified : o.stage.notices ≠ 0) : o.isOpen = false := by
  unfold isOpen
  cases stage : o.stage <;> simp_all [Stage.notices]

@[simp] theorem reply_notices (o : Owner) (j : Job) (r : Except Error Grant) :
    (o.reply j r).notices = o.notices := by rw [reply_eq]

@[simp] theorem reply_stage (o : Owner) (j : Job) (r : Except Error Grant) :
    (o.reply j r).stage = o.stage := by rw [reply_eq]

@[simp] theorem leave_notices (o : Owner) : o.leave.notices = o.notices := by rw [leave_eq]

@[simp] theorem leave_stage (o : Owner) : o.leave.stage = .leaving := by rw [leave_eq]

@[simp] theorem leave_waiting (o : Owner) : o.leave.waiting = [] := by rw [leave_eq]

theorem Turn.notices_eq (turn : Turn o x o') (h : o.notices = o.stage.notices) :
    o'.notices = o'.stage.notices := by
  cases turn with
  | notifies left => simpa [left, Stage.notices] using h
  | _ => simp_all [keepPlace, enqueue, Stage.notices]

/-- What was notified stays so. -/
theorem Turn.notices_le (turn : Turn o x o') : o.notices ≤ o'.notices := by
  cases turn with
  | notifies left => exact Nat.le_succ _
  | _ => simp [keepPlace, enqueue]

/-- Where a place becomes free, the next one who waits gets it. -/
theorem Crowded.take (h : o.Crowded) {queue placed waiting : List Job}
    (fewer : o.queue.length + o.placed.length ≤ queue.length + placed.length + 1)
    (nobody : o.waiting = [] → waiting = []) :
    ({ o with queue := queue, placed := placed, waiting := waiting } : Owner).keepPlace.Crowded := by
  cases waiting with
  | nil => exact .inl rfl
  | cons j rest =>
    refine .inr ?_
    rcases h with empty | full
    · cases nobody empty
    · simp only [keepPlace, List.length_append, List.length_take, List.length_cons]
      omega

theorem Turn.crowded (turn : Turn o x o') (h : o.Crowded) : o'.Crowded := by
  cases turn with
  | queues c accepts room => exact h.imp id fun full => absurd full (Nat.not_le_of_lt room)
  | waits c accepts full => exact .inr full
  | refused c closed =>
    rw [reply_eq]
    exact h
  | enters split =>
    refine h.imp id fun full => ?_
    simp only [split, enqueue, List.length_append, List.length_cons, List.length_nil] at full ⊢
    omega
  | goes asked missing => exact h.imp (fun nobody => by simp [nobody]) id
  | @frees before after j asked split =>
    have nobody (empty : o.waiting = []) : (o.waiting.filter fun i => i.ticket != j.ticket) = [] := by
      rw [empty, List.filter_nil]
    refine Crowded.take (o := { o with gone := j.ticket :: o.gone }) h ?_ nobody
    simp only [split, List.length_append, List.length_cons]
    omega
  | @executes j rest serving queue command =>
    refine h.take ?_ id
    simp only [queue, List.length_cons]
    omega
  | quits serving queue command => exact .inl (leave_waiting _)
  | deserted serving queue nobody => exact .inl (leave_waiting _)
  | loses serving => exact .inl (leave_waiting _)
  | answers executing quiet =>
    rw [reply_eq]
    exact h
  | _ => exact h

/-! ## What becomes of a request -/

/-- A request that is made is queued or waits for room, unless the queue is closed. -/
theorem Turn.requested {c : Command} (turn : Turn o (.request c) o') :
    ⟨o.requests, c⟩ ∈ o'.known ∨ o'.isOpen = false := by
  cases turn with
  | queues _ accepts room => exact .inl (by simp [Owner.known, enqueue])
  | waits _ accepts full => exact .inl (by simp [Owner.known])
  | refused _ closed =>
    rw [reply_eq]
    exact .inr closed
  | rests quiet silent idle => exact absurd rfl (quiet c)

theorem known_keepPlace (o : Owner) : o.keepPlace.known = o.known := by
  simp only [known, keepPlace, List.append_assoc, List.take_append_drop]

/-- What was requested stays queued or goes on to wait for room until the queue is closed, unless its
caller goes away. -/
theorem Turn.keeps_known (turn : Turn o x o') {j : Job} (there : j ∈ o.known)
    (stays : x ≠ .forget j.ticket) : j ∈ o'.known ∨ o'.isOpen = false := by
  cases turn with
  | queues c accepts room => exact .inl (by grind [Owner.known, enqueue])
  | waits c accepts full => exact .inl (by grind [Owner.known])
  | refused c closed =>
    rw [reply_eq]
    exact .inl there
  | enters split => exact .inl (by grind [Owner.known, enqueue])
  | goes asked missing => exact .inl (by grind [Owner.known])
  | frees asked split =>
    rw [known_keepPlace]
    exact .inl (by grind [Owner.known])
  | @executes j' rest serving queue command =>
    have same := ({ o with queue := rest } : Owner).known_keepPlace
    exact .inl (show j ∈ ({ o with queue := rest } : Owner).keepPlace.known by rwa [same])
  | quits serving queue command => exact .inr (leave_isOpen _)
  | deserted serving queue nobody => exact .inr (leave_isOpen _)
  | loses serving => exact .inr (leave_isOpen _)
  | answers executing quiet =>
    rw [reply_eq]
    exact .inl there
  | _ => exact .inl there

/-- Who is gone went away itself. -/
theorem Turn.gone_cases (turn : Turn o x o') {t : Ticket} (gone : t ∈ o'.gone) :
    t ∈ o.gone ∨ x = .forget t := by
  cases turn with
  | goes asked missing => exact (List.mem_cons.mp gone).symm.imp id fun same => by rw [same]
  | frees asked split => exact (List.mem_cons.mp gone).symm.imp id fun same => by rw [same]
  | refused c closed => exact .inl (by rwa [reply_gone] at gone)
  | answers executing quiet => exact .inl (by simpa using gone)
  | quits serving queue command => exact .inl (by rwa [leave_gone] at gone)
  | deserted serving queue nobody => exact .inl (by rwa [leave_gone] at gone)
  | loses serving => exact .inl (by rwa [leave_gone] at gone)
  | _ => exact .inl gone

end Owner

/-! ## Receivers -/

namespace Receiver

/-- How a receiver stands to what was notified. It cannot fall behind by more than one notice. -/
structure Attends (r : Receiver) (sent : Nat) : Prop where
  next_le : r.next ≤ sent
  count_le : r.arrivals.count .notice ≤ r.next
  loses : ∀ n, .lost n ∉ r.arrivals

variable {r : Receiver} {sent : Nat}

theorem attends_new (sent : Nat) : Attends { next := sent } sent where
  next_le := Nat.le_refl _
  count_le := Nat.zero_le _
  loses _ := List.not_mem_nil

theorem Attends.later (h : r.Attends sent) {sent' : Nat} (more : sent ≤ sent') : r.Attends sent' :=
  { h with next_le := Nat.le_trans h.next_le more }

theorem receive_cases (r : Receiver) (once : sent ≤ 1) (hungUp : Bool) :
    (r.next < sent ∧
      r.receive sent hungUp = { next := r.next + 1, arrivals := r.arrivals ++ [.notice] }) ∨
    (sent ≤ r.next ∧ (r.receive sent hungUp = r ∨
      r.receive sent hungUp = { r with arrivals := r.arrivals ++ [.hungUp] })) := by
  have inTime : ¬ r.next < sent - kept := by
    unfold kept
    omega
  rw [receive, arrival?, if_neg inTime]
  by_cases ahead : r.next < sent
  · rw [if_pos ahead]
    exact .inl ⟨ahead, rfl⟩
  · rw [if_neg ahead]
    refine .inr ⟨Nat.le_of_not_lt ahead, ?_⟩
    cases hungUp with
    | false => exact .inl rfl
    | true => exact .inr rfl

theorem Attends.receive (h : r.Attends sent) (once : sent ≤ 1) (hungUp : Bool) :
    (r.receive sent hungUp).Attends sent := by
  rcases r.receive_cases once hungUp with ⟨ahead, found⟩ | ⟨level, found | found⟩
  · rw [found]
    refine ⟨ahead, ?_, fun n there => ?_⟩
    · rw [List.count_append]
      exact Nat.add_le_add_right h.count_le 1
    · rcases List.mem_append.mp there with before | now
      · exact h.loses n before
      · cases List.mem_singleton.mp now
  · rw [found]
    exact h
  · rw [found]
    refine ⟨h.next_le, ?_, fun n there => ?_⟩
    · rw [List.count_append]
      exact h.count_le
    · rcases List.mem_append.mp there with before | now
      · exact h.loses n before
      · cases List.mem_singleton.mp now

theorem count_receive (heard : r.arrivals.count .notice = r.next) (once : sent ≤ 1) (hungUp : Bool) :
    (r.receive sent hungUp).arrivals.count .notice = (r.receive sent hungUp).next := by
  rcases r.receive_cases once hungUp with ⟨ahead, found⟩ | ⟨level, found | found⟩
  · rw [found, List.count_append, heard]
    rfl
  · rw [found]
    exact heard
  · rw [found, List.count_append, heard]
    rfl

/-- Who looks is behind no more. -/
theorem next_receive (h : r.Attends sent) (once : sent ≤ 1) (hungUp : Bool) :
    (r.receive sent hungUp).next = sent := by
  have behind := h.next_le
  rcases r.receive_cases once hungUp with ⟨ahead, found⟩ | ⟨level, found | found⟩ <;> rw [found]
  · show r.next + 1 = sent
    omega
  · exact Nat.le_antisymm behind level
  · exact Nat.le_antisymm behind level

end Receiver
end BridgeKeeper.Ssh
