import BridgeKeeper.Proofs.Ssh.Closing
import Mathlib.Tactic.IntervalCases

/-!
# What a session promises those who share it

However calls that close a session, commands, the end of the connection and receivers fall together:
the end is notified once, to a session that is dead by then and stays so, the forward is taken down
once, and no call to close the session returns before its disconnect is queued or waits for ever.
-/
namespace BridgeKeeper.Ssh

namespace Owner

variable {o o' : Owner} {x : Event}

@[simp] theorem reply_queued (o : Owner) (j : Job) (r : Except Error Grant) :
    (o.reply j r).queued = o.queued := by rw [reply_eq]

@[simp] theorem leave_queued (o : Owner) : o.leave.queued = o.queued := by rw [leave_eq]

/-- What was queued stays so. -/
theorem Turn.queued_subset (turn : Turn o x o') : o.queued ⊆ o'.queued := by
  cases turn with
  | queues c accepts room => exact List.subset_append_left _ _
  | enters split => exact List.subset_append_left _ _
  | _ => simp [keepPlace]

theorem queued_run (o : Owner) (xs : List Event) : o.queued ⊆ (o.run xs).queued := by
  induction xs generalizing o with
  | nil => exact List.Subset.refl _
  | cons x xs ih => exact List.Subset.trans (apply_turn o x).queued_subset (ih _)

theorem notices_run (o : Owner) (xs : List Event) : o.notices ≤ (o.run xs).notices := by
  induction xs generalizing o with
  | nil => exact Nat.le_refl _
  | cons x xs ih => exact Nat.le_trans (apply_turn o x).notices_le (ih _)

def Quits (o : Owner) : Prop := (∃ t, ⟨t, .disconnect⟩ ∈ o.queued) ∨ o.isOpen = false

theorem Quits.run {cs : List Command} {gs : List (Job × Except String Grant)} (h : o.Quits)
    (ordered : o.Ordered cs gs) (xs : List Event) : (o.run xs).Quits :=
  h.imp (Exists.imp fun _ queued => o.queued_run xs queued) fun closed => (ordered.stays_run closed xs).1

end Owner

namespace Observed

variable {o : Observed} {cs : List Command} {gs : List (Job × Except String Grant)} {k : Nat} {x : Event}

/-! ## Events of a session that several share -/

/-- What an event does to the owner is what some events of the owner do. -/
theorem exists_owner_run (o : Observed) (x : Event) :
    ∃ ys, (o.apply x).session.owner = o.session.owner.run ys := by
  cases x with
  | close | subscribe => exact ⟨[], rfl⟩
  | advance k =>
    refine ⟨(o.session.sends (.advance k)).map .request, ?_⟩
    rw [Owner.run, List.foldl_map]
    exact o.session.owner_advance k
  | cancel k =>
    rw [apply, cancel]
    split
    · exact ⟨[], rfl⟩
    · cases closing : o.session.closings k with
      | cancelling t | leaving t => exact ⟨[.forget t], by simp only [Session.cancel, closing]; rfl⟩
      | started | cleared | returned => exact ⟨[], by simp only [Session.cancel, closing]; rfl⟩
  | receive n =>
    refine ⟨[], ?_⟩
    rw [apply, receive]
    split <;> rfl
  | owner x =>
    rw [apply]
    split
    · exact ⟨[], rfl⟩
    · exact ⟨[x], rfl⟩

theorem closings_cancel (s : Session) (k : Nat) : (s.cancel k).closings = put s.closings k .returned := by
  cases closing : s.closings k <;> simp [Session.cancel, closing, Session.setClosing]

theorem advance_other (s : Session) {i : Nat} (apart : i ≠ k) :
    (s.apply (.advance k)).closings i = s.closings i := by
  have other (s : Session) (c : Closing) : (s.setClosing k c).closings i = s.closings i :=
    put_other _ _ apart
  rw [Session.apply, Session.advance]
  split
  · unfold Session.takeDown
    split <;> simp only [other]
  · split <;> simp only [other]
  · simp only [other]
  · split <;> simp only [other]
  · rfl

/-- A call returns once its disconnect is queued or the queue is closed, or it is cancelled. -/
theorem return_cases (h : o.session.Sound cs gs) (pending : o.session.closings k ≠ .returned)
    (past : (o.apply x).session.closings k = .returned) :
    x = .cancel k ∨ x = .advance k ∧ ∃ t, o.session.closings k = .leaving t ∧
      (⟨t, .disconnect⟩ ∈ o.session.owner.queued ∨ o.isAlive = false) := by
  cases x with
  | close =>
    have now : put o.session.closings o.session.called Closing.started k = .returned := past
    by_cases new : k = o.session.called
    · rw [new, put_same] at now
      cases now
    · rw [put_other _ _ new] at now
      exact absurd now pending
  | cancel i =>
    by_cases mine : k = i
    · exact .inl (by rw [mine])
    · rw [apply, cancel] at past
      split at past
      · exact absurd past pending
      · rw [closings_cancel, put_other _ _ mine] at past
        exact absurd past pending
  | advance i =>
    by_cases mine : k = i
    · subst mine
      refine .inr ⟨rfl, ?_⟩
      have sound := h.advance k
      rw [apply] at past
      cases closing : o.session.closings k with
      | leaving t =>
        refine ⟨t, rfl, ?_⟩
        by_cases waits : (o.session.owner.placed ++ o.session.owner.waiting).any (·.ticket = t) = true
        · simp [Session.apply, Session.advance, closing, waits] at past
        · refine (h.leaves closing).imp (fun known => ?_) id
          rw [Owner.known, List.append_assoc] at known
          refine (List.mem_append.mp known).resolve_right fun outside => waits ?_
          exact List.any_eq_true.mpr ⟨_, outside, decide_eq_true rfl⟩
      | started =>
        simp only [Session.apply, Session.advance, closing, Session.takeDown] at past
        split at past <;> simp [Session.closings_setClosing, closing] at past
      | cancelling t =>
        simp only [Session.apply, Session.advance, closing] at past
        split at past <;> simp [Session.closings_setClosing, closing] at past
      | cleared => simp [Session.apply, Session.advance, closing, Session.closings_setClosing] at past
      | returned => exact absurd closing pending
    · rw [apply, advance_other _ mine] at past
      exact absurd past pending
  | subscribe => exact absurd past pending
  | receive n =>
    rw [apply, receive] at past
    split at past <;> exact absurd past pending
  | owner x =>
    rw [apply] at past
    split at past <;> exact absurd past pending

/-- How a session stands to those who share it. -/
structure Sound (cs : List Command) (gs : List (Job × Except String Grant)) (o : Observed) : Prop where
  session : o.session.Sound cs gs
  attends : ∀ n, (o.receivers n).Attends o.notices
  returned : ∀ k < o.session.called, o.session.closings k = .returned →
    k ∈ o.cancelled ∨ o.session.owner.Quits

theorem sound_start (f : Option Active) : (start f).Sound [] [] where
  session := Session.sound_start f
  attends _ := Receiver.attends_new 0
  returned _ called := absurd called (Nat.not_lt_zero _)

theorem Sound.notices_le (h : o.Sound cs gs) : o.notices ≤ 1 := by
  rw [notices, h.session.noticed]
  cases o.session.owner.stage <;> simp [Owner.Stage.notices]

theorem Sound.session_apply (h : o.Sound cs gs) (x : Event) :
    ∃ cs gs, (o.apply x).session.Sound cs gs := by
  cases x with
  | close => exact ⟨cs, gs, h.session.close⟩
  | advance k => exact ⟨_, gs, h.session.advance k⟩
  | cancel k =>
    rw [apply, cancel]
    split
    · exact ⟨cs, gs, h.session⟩
    · next pending => exact ⟨cs, gs, h.session.cancel pending⟩
  | subscribe => exact ⟨cs, gs, h.session⟩
  | receive n =>
    rw [apply, receive]
    split <;> exact ⟨cs, gs, h.session⟩
  | owner x =>
    rw [apply]
    split
    · exact ⟨cs, gs, h.session⟩
    · next others =>
      refine ⟨_, _, h.session.onOwner fun k t waits same => others ?_⟩
      have called : k < o.session.called := h.session.lt_called fun past => by
        rw [past] at waits
        cases waits
      rw [same, concerns, Session.isOwn, List.any_eq_true]
      exact ⟨k, List.mem_range.mpr called, decide_eq_true waits⟩

theorem Sound.attends_apply (h : o.Sound cs gs) (x : Event) (n : Nat) :
    ((o.apply x).receivers n).Attends (o.apply x).notices := by
  obtain ⟨ys, same⟩ := o.exists_owner_run x
  have later : o.notices ≤ (o.apply x).notices := by
    rw [notices, notices, same]
    exact Owner.notices_run _ ys
  have others (rest : (o.apply x).receivers = o.receivers) :
      ((o.apply x).receivers n).Attends (o.apply x).notices := by
    rw [rest]
    exact (h.attends n).later later
  cases x with
  | close | advance k => exact others rfl
  | cancel k =>
    refine others ?_
    rw [apply, cancel]
    split <;> rfl
  | owner x =>
    refine others ?_
    rw [apply]
    split <;> rfl
  | subscribe =>
    rw [apply, subscribe]
    by_cases new : n = o.subscribed
    · simp only [new, put_same]
      exact Receiver.attends_new _
    · simp only [put_other _ _ new]
      exact h.attends n
  | receive i =>
    rw [apply, receive]
    split
    · by_cases mine : n = i
      · simp only [mine, put_same]
        exact (h.attends i).receive h.notices_le _
      · simp only [put_other _ _ mine]
        exact h.attends n
    · exact h.attends n

theorem cancelled_apply (o : Observed) (x : Event) : o.cancelled ⊆ (o.apply x).cancelled := by
  cases x with
  | cancel k =>
    rw [apply, cancel]
    split
    · exact List.Subset.refl _
    · exact List.subset_cons_self _ _
  | receive n =>
    rw [apply, receive]
    split <;> exact List.Subset.refl _
  | owner x =>
    rw [apply]
    split <;> exact List.Subset.refl _
  | _ => exact List.Subset.refl _

/-- Only a call that begins now was not there before. -/
theorem called_apply (o : Observed) (x : Event) (called : k < (o.apply x).session.called) :
    k < o.session.called ∨ (o.apply x).session.closings k = .started := by
  cases x with
  | close =>
    by_cases new : k = o.session.called
    · rw [new]
      exact .inr (put_same _ _ _)
    · exact .inl (Nat.lt_of_le_of_ne (Nat.le_of_lt_succ called) new)
  | advance i =>
    refine .inl ?_
    have same : (o.session.apply (.advance i)).called = o.session.called := by
      rw [Session.apply, Session.advance]
      split
      · unfold Session.takeDown
        split <;> rfl
      · split <;> rfl
      · rfl
      · split <;> rfl
      · rfl
    exact Nat.lt_of_lt_of_eq called same
  | cancel i =>
    refine .inl ?_
    rw [apply, cancel] at called
    split at called
    · exact called
    · cases closing : o.session.closings i <;> simpa [Session.cancel, closing, Session.setClosing] using called
  | subscribe => exact .inl called
  | receive n =>
    rw [apply, receive] at called
    split at called <;> exact .inl called
  | owner x =>
    rw [apply] at called
    split at called <;> exact .inl called

theorem Sound.apply (h : o.Sound cs gs) (x : Event) : ∃ cs gs, (o.apply x).Sound cs gs := by
  obtain ⟨cs', gs', session⟩ := h.session_apply x
  refine ⟨cs', gs', session, h.attends_apply x, fun k called past => ?_⟩
  rcases o.called_apply x called with before | new
  · obtain ⟨ys, same⟩ := o.exists_owner_run x
    have still (quits : o.session.owner.Quits) : (o.apply x).session.owner.Quits := by
      rw [same]
      exact quits.run h.session.ordered ys
    by_cases returned : o.session.closings k = .returned
    · exact (h.returned k before returned).imp (fun gone => o.cancelled_apply x gone) still
    · rcases return_cases h.session returned past with rfl | ⟨rfl, t, closing, queued⟩
      · refine .inl ?_
        rw [Observed.apply, cancel, if_neg returned]
        exact List.mem_cons_self
      · exact .inr (still (queued.imp (fun queued => ⟨t, queued⟩) id))
  · cases past.symm.trans new

theorem Sound.run (h : o.Sound cs gs) (xs : List Event) : ∃ cs gs, (o.run xs).Sound cs gs := by
  induction xs generalizing o cs gs with
  | nil => exact ⟨cs, gs, h⟩
  | cons x xs ih =>
    obtain ⟨cs', gs', next⟩ := h.apply x
    exact ih next

theorem run_append (o : Observed) (xs ys : List Event) : o.run (xs ++ ys) = (o.run xs).run ys :=
  List.foldl_append

theorem Sound.dead_run (h : o.Sound cs gs) (dead : o.isAlive = false) (xs : List Event) :
    (o.run xs).isAlive = false := by
  induction xs generalizing o cs gs with
  | nil => exact dead
  | cons x xs ih =>
    obtain ⟨cs', gs', next⟩ := h.apply x
    obtain ⟨ys, same⟩ := o.exists_owner_run x
    refine ih next ?_
    rw [isAlive, Session.isAlive, same]
    exact (h.session.ordered.stays_run dead ys).1

/-- Who has the notice finds the session dead. -/
theorem Sound.dead_of_notice (h : o.Sound cs gs) {n : Nat} (heard : .notice ∈ o.arrivals n) :
    o.isAlive = false := by
  refine Owner.closed_of_notices (Nat.ne_of_gt ?_)
  rw [← h.session.noticed]
  calc 0 < (o.arrivals n).count .notice := List.count_pos_iff.mpr heard
    _ ≤ (o.receivers n).next := (h.attends n).count_le
    _ ≤ o.notices := (h.attends n).next_le

/-! ## Receivers that are there in time -/

/-- A receiver that heard of all that was notified before what comes to it next. -/
def InTime (o : Observed) (n : Nat) : Prop :=
  n < o.subscribed ∧ (o.arrivals n).count .notice = (o.receivers n).next

theorem Sound.inTime_of_unnotified (h : o.Sound cs gs) {n : Nat} (there : n < o.subscribed)
    (unnotified : o.notices = 0) : o.InTime n := by
  have behind := (h.attends n).next_le
  have heard := (h.attends n).count_le
  rw [unnotified, Nat.le_zero] at behind
  rw [behind, Nat.le_zero] at heard
  exact ⟨there, heard.trans behind.symm⟩

theorem Sound.inTime_apply (h : o.Sound cs gs) {n : Nat} (inTime : o.InTime n) (x : Event) :
    (o.apply x).InTime n := by
  obtain ⟨there, heard⟩ := inTime
  have others (rest : (o.apply x).receivers = o.receivers) (same : (o.apply x).subscribed = o.subscribed) :
      (o.apply x).InTime n := by
    rw [InTime, arrivals, rest, same]
    exact ⟨there, heard⟩
  cases x with
  | close | advance k => exact others rfl rfl
  | cancel k =>
    refine others ?_ ?_ <;> rw [Observed.apply, cancel] <;> split <;> rfl
  | owner x =>
    refine others ?_ ?_ <;> rw [Observed.apply] <;> split <;> rfl
  | subscribe =>
    refine ⟨Nat.lt_succ_of_lt there, ?_⟩
    rw [arrivals, Observed.apply, subscribe]
    simp only [put_other _ _ (Nat.ne_of_lt there)]
    exact heard
  | receive i =>
    rw [Observed.apply, receive]
    split
    · refine ⟨there, ?_⟩
      by_cases mine : n = i
      · subst mine
        rw [arrivals]
        simp only [put_same]
        exact Receiver.count_receive heard h.notices_le _
      · rw [arrivals]
        simp only [put_other _ _ mine]
        exact heard
    · exact ⟨there, heard⟩

theorem Sound.inTime_run (h : o.Sound cs gs) {n : Nat} (inTime : o.InTime n) (xs : List Event) :
    (o.run xs).InTime n := by
  induction xs generalizing o cs gs with
  | nil => exact inTime
  | cons x xs ih =>
    obtain ⟨cs', gs', next⟩ := h.apply x
    exact ih next (h.inTime_apply inTime x)

/-- Who subscribed in time and looks has heard of all that was notified. -/
theorem Sound.count_of_received (h : o.Sound cs gs) {n : Nat} (inTime : o.InTime n) :
    ((o.apply (.receive n)).arrivals n).count .notice = o.notices := by
  rw [arrivals, Observed.apply, receive, if_pos inTime.1]
  simp only [put_same]
  rw [Receiver.count_receive inTime.2 h.notices_le, Receiver.next_receive (h.attends n) h.notices_le]

/-! ## The forward -/

def sends (o : Observed) : Event → List Command
  | .advance k => o.session.sends (.advance k)
  | .close | .cancel _ | .subscribe | .receive _ | .owner _ => []

def sent (o : Observed) : List Event → List Command
  | [] => []
  | x :: xs => o.sends x ++ (o.apply x).sent xs

def takenDown (o : Observed) (cs : List Command) : List Active :=
  o.session.stopped.map .listener ++ (Session.cancels cs).map fun a => .granted a.1 a.2

/-- A session whose forward stands until one call takes it down. -/
inductive Down (f : Option Active) (o : Observed) (cs : List Command) : Prop
  | stands : o.session.forward = f → o.session.holder = none → o.takenDown cs = [] →
    (∀ k, o.session.closings k = .started ∨
      o.session.closings k = .returned ∧ (k < o.session.called → k ∈ o.cancelled)) → Down f o cs
  | down : o.session.forward = none → o.takenDown cs = f.toList → Down f o cs

theorem down_start (f : Option Active) : Down f (start f) [] :=
  .stands rfl rfl rfl fun _ => .inr ⟨rfl, fun called => absurd called (Nat.not_lt_zero _)⟩

variable {f : Option Active}

/-- The first call that goes on takes the forward down. -/
theorem down_of_started (closing : o.session.closings k = .started) (forward : o.session.forward = f)
    (holder : o.session.holder = none) (none : o.takenDown cs = []) :
    Down f (o.apply (.advance k)) (cs ++ o.sends (.advance k)) := by
  obtain ⟨stopped, cancels⟩ := List.append_eq_nil_iff.mp none
  rw [List.map_eq_nil_iff] at stopped cancels
  subst forward
  cases forward : o.session.forward with
  | none =>
    refine .down ?_ ?_ <;> simp [apply, Session.apply, Session.advance, closing, Session.takeDown, holder,
      forward, Session.setClosing, takenDown, sends, Session.sends, stopped, cancels]
  | some a =>
    cases a with
    | listener l =>
      refine .down ?_ ?_ <;> simp [apply, Session.apply, Session.advance, closing, Session.takeDown, holder,
        forward, Session.setClosing, takenDown, sends, Session.sends, stopped, cancels]
    | granted address port =>
      refine .down ?_ ?_
      · simp [apply, Session.apply, Session.advance, closing, Session.takeDown, holder, forward,
          Session.setClosing]
      · have sent : o.sends (.advance k) = [.cancel address port] := by
          simp [sends, Session.sends, closing, holder, forward]
        rw [sent, takenDown, Session.cancels_append, cancels]
        simp [apply, Session.apply, Session.advance, closing, Session.takeDown, holder, forward,
          Session.setClosing, stopped, Session.cancels]

/-- Nothing is taken down that is down. -/
theorem advance_down (forward : o.session.forward = none) (k : Nat) :
    (o.session.apply (.advance k)).forward = none ∧
      (o.session.apply (.advance k)).stopped = o.session.stopped ∧
      Session.cancels (o.sends (.advance k)) = [] := by
  refine ⟨?_, ?_, ?_⟩
  · rw [Session.apply, Session.advance]
    repeat' split
    · unfold Session.takeDown
      rw [forward]
      split <;> first | exact forward | contradiction
    all_goals exact forward
  · rw [Session.apply, Session.advance]
    repeat' split
    · unfold Session.takeDown
      rw [forward]
      split <;> first | rfl | contradiction
    all_goals rfl
  · rw [sends, Session.sends]
    split
    · next granted => cases forward.symm.trans granted
    · rfl
    · rfl

/-- As long as no call that closes the session has gone on, only one that goes on takes the forward
down. -/
theorem down_step_of_stands (forward : o.session.forward = f) (holder : o.session.holder = none)
    (none : o.takenDown cs = [])
    (calls : ∀ k, o.session.closings k = .started ∨
      o.session.closings k = .returned ∧ (k < o.session.called → k ∈ o.cancelled)) (x : Event) :
    Down f (o.apply x) (cs ++ o.sends x) := by
  have same {o' : Observed} (forward' : o'.session.forward = o.session.forward)
      (holder' : o'.session.holder = o.session.holder) (stopped : o'.session.stopped = o.session.stopped)
      (calls : ∀ k, o'.session.closings k = .started ∨
        o'.session.closings k = .returned ∧ (k < o'.session.called → k ∈ o'.cancelled)) :
      Down f o' (cs ++ []) :=
    .stands (forward'.trans forward) (holder'.trans holder)
      (by rw [List.append_nil, takenDown, stopped]; exact none) calls
  cases x with
  | close =>
    refine same rfl rfl rfl fun k => ?_
    by_cases new : k = o.session.called
    · rw [new]
      exact .inl (put_same _ _ _)
    · refine (calls k).imp (fun closing => (put_other _ _ new).trans closing) fun past => ?_
      refine ⟨(put_other _ _ new).trans past.1, fun called => past.2 ?_⟩
      exact Nat.lt_of_le_of_ne (Nat.le_of_lt_succ called) new
  | advance k =>
    rcases calls k with closing | ⟨closing, -⟩
    · exact down_of_started closing forward holder none
    · have rests : o.session.apply (.advance k) = o.session := by
        simp [Session.apply, Session.advance, closing]
      have silent : o.sends (.advance k) = [] := by simp [sends, Session.sends, closing]
      rw [silent]
      refine same ?_ ?_ ?_ ?_ <;> simp only [apply, rests]
      exact calls
  | cancel k =>
    rw [apply, cancel]
    split
    · exact same rfl rfl rfl calls
    · next pending =>
      have closing := (calls k).resolve_right fun past => pending past.1
      have gone : o.session.cancel k = o.session.setClosing k .returned := by
        simp [Session.cancel, closing]
      rw [gone]
      refine same rfl rfl rfl fun i => ?_
      by_cases mine : i = k
      · rw [mine]
        exact .inr ⟨put_same _ _ _, fun _ => List.mem_cons_self⟩
      · refine (calls i).imp (fun closing => (put_other _ _ mine).trans closing) fun past => ?_
        exact ⟨(put_other _ _ mine).trans past.1, fun called => List.mem_cons_of_mem _ (past.2 called)⟩
  | subscribe => exact same rfl rfl rfl calls
  | receive n =>
    rw [apply, receive]
    split <;> exact same rfl rfl rfl calls
  | owner x =>
    rw [apply]
    split <;> exact same rfl rfl rfl calls

/-- Once the forward is down nothing more is taken down. -/
theorem down_step_of_down (forward : o.session.forward = none) (once : o.takenDown cs = f.toList)
    (x : Event) : Down f (o.apply x) (cs ++ o.sends x) := by
  have same {o' : Observed} {cs' : List Command} (forward' : o'.session.forward = none)
      (stopped : o'.session.stopped = o.session.stopped) (silent : Session.cancels cs' = []) :
      Down f o' (cs ++ cs') := by
    refine .down forward' ?_
    rw [takenDown, stopped, Session.cancels_append, silent, List.append_nil]
    exact once
  cases x with
  | close | subscribe => exact same forward rfl rfl
  | advance k =>
    obtain ⟨forward', stopped, silent⟩ := advance_down forward k
    exact same forward' stopped silent
  | cancel k =>
    rw [apply, cancel]
    split
    · exact same forward rfl rfl
    · refine same ?_ ?_ rfl <;> cases closing : o.session.closings k <;>
        simp [Session.cancel, closing, Session.setClosing, forward]
  | receive n =>
    rw [apply, receive]
    split <;> exact same forward rfl rfl
  | owner x =>
    rw [apply]
    split <;> exact same forward rfl rfl

theorem Down.step (h : Down f o cs) (x : Event) : Down f (o.apply x) (cs ++ o.sends x) := by
  cases h with
  | stands forward holder none calls => exact down_step_of_stands forward holder none calls x
  | down forward once => exact down_step_of_down forward once x

theorem Down.run (h : Down f o cs) (xs : List Event) : Down f (o.run xs) (cs ++ o.sent xs) := by
  induction xs generalizing o cs with
  | nil =>
    rw [sent, List.append_nil]
    exact h
  | cons x xs ih =>
    rw [sent, ← List.append_assoc]
    exact ih (h.step x)

/-! ## A session at rest -/

/-- Nothing is left to do: no call goes on, no caller has a place to fill, and the owner waits for a
command or is over. -/
structure AtRest (o : Observed) : Prop where
  calls : ∀ k, o.session.apply (.advance k) = o.session
  callers : o.session.owner.placed = []
  owner : o.session.owner.stage = .serving ∧ o.session.owner.queue = [] ∨ o.session.owner.stage = .over

theorem Sound.pending_eq_nil (h : o.Sound cs gs) (rests : o.AtRest) : o.session.owner.pending = [] := by
  rcases rests.owner with ⟨serving, queue⟩ | past
  · have waiting : o.session.owner.waiting = [] := by
      refine h.session.crowded.resolve_right fun full => ?_
      rw [queue, rests.callers] at full
      exact absurd full (by decide)
    rw [Owner.pending, Owner.working_eq_nil (by simp [serving]), Owner.ahead, queue, rests.callers, waiting]
    rfl
  · exact h.session.ordered.pending_eq_nil (by simp [Owner.isOpen, past])

/-- With nothing pending, who cancels the forward has its answer. -/
theorem Sound.not_cancelling (h : o.Sound cs gs) (rests : o.AtRest) (k : Nat) (t : Ticket) :
    o.session.closings k ≠ .cancelling t := by
  intro closing
  obtain ⟨address, port, known⟩ := h.session.cancels closing
  have there : t ∉ o.session.owner.gone := h.session.there (k := k) (by rw [closing]; rfl)
  have once := h.session.accounted.each known nofun there
  rw [Owner.places, h.pending_eq_nil rests, List.countP_nil, Nat.zero_add,
    Owner.answer?_eq_none_iff.mp (Session.unanswered_of_cancelling closing (rests.calls k))] at once
  cases once

/-- Every call to close the session has returned. -/
theorem Sound.returned_of_atRest (h : o.Sound cs gs) (rests : o.AtRest) (k : Nat) :
    o.session.closings k = .returned := by
  cases closing : o.session.closings k with
  | returned => rfl
  | cancelling t => exact absurd closing (h.not_cancelling rests k t)
  | started =>
    obtain ⟨j, held⟩ := Session.held_of_started closing (rests.calls k)
    obtain ⟨t, cancels⟩ := h.session.holder j held
    exact absurd cancels (h.not_cancelling rests j t)
  | cleared => exact absurd closing (Session.not_cleared (rests.calls k))
  | leaving t =>
    obtain ⟨j, outside, -⟩ := Session.outside_of_leaving closing (rests.calls k)
    have pending : j ∈ o.session.owner.pending :=
      List.mem_append_right _ (List.mem_append_right _ outside)
    rw [h.pending_eq_nil rests] at pending
    cases pending

/-- Whoever closed the session finds it dead, and its end notified. -/
theorem Sound.ended_of_atRest (h : o.Sound cs gs) (rests : o.AtRest) (called : k < o.session.called)
    (there : k ∉ o.cancelled) : o.isAlive = false ∧ o.notices = 1 := by
  have quits := (h.returned k called (h.returned_of_atRest rests k)).resolve_left there
  rcases rests.owner with ⟨serving, queue⟩ | past
  · have accepts := Owner.isOpen_of_serving serving
    rcases quits with ⟨t, queued⟩ | closed
    · rw [h.session.ordered.served accepts, queue, List.append_nil] at queued
      exact absurd rfl (h.session.ordered.meant _ queued)
    · cases accepts.symm.trans closed
  · refine ⟨by simp [isAlive, Session.isAlive, Owner.isOpen, past], ?_⟩
    rw [notices, h.session.noticed, past]
    rfl

def after (f : Option Active) (xs : List Event) : Observed := (start f).run xs

/-- What a session promises those who share it, after some events. -/
structure Promises (f : Option Active) (xs : List Event) : Prop where
  /-- Who has the notice finds the session dead. -/
  dead : ∀ n, .notice ∈ (after f xs).arrivals n → (after f xs).isAlive = false
  /-- A dead session stays dead. -/
  final : (after f xs).isAlive = false → ∀ ys, (after f (xs ++ ys)).isAlive = false
  /-- The end is notified once, before the owner is over. -/
  once : (after f xs).notices ≤ 1 ∧ ((after f xs).session.owner.stage = .over → (after f xs).notices = 1)
  /-- No receiver gets the notice twice or loses one. -/
  most : ∀ n, ((after f xs).arrivals n).count .notice ≤ 1 ∧ ∀ c, .lost c ∉ (after f xs).arrivals n
  /-- Who subscribed before the notice gets it as soon as it looks. -/
  each : ∀ {n ys}, n < (after f xs).subscribed → (after f xs).notices = 0 →
    (after f (xs ++ ys)).notices = 1 →
    ((after f (xs ++ ys ++ [.receive n])).arrivals n).count .notice = 1
  /-- The forward is taken down at most once, and is down when a call came further that was not
  cancelled. -/
  down : (after f xs).takenDown ((start f).sent xs) <+: f.toList
  first : ∀ {k}, k < (after f xs).session.called → (after f xs).session.closings k ≠ .started →
    k ∉ (after f xs).cancelled → (after f xs).takenDown ((start f).sent xs) = f.toList
  /-- A call returns, if it is not cancelled, once its disconnect is queued or the queue is closed. -/
  returns : ∀ {k x}, (after f xs).session.closings k ≠ .returned →
    (after f (xs ++ [x])).session.closings k = .returned →
    x = .cancel k ∨ x = .advance k ∧ ∃ t, (after f xs).session.closings k = .leaving t ∧
      (⟨t, .disconnect⟩ ∈ (after f xs).session.owner.queued ∨ (after f xs).isAlive = false)
  /-- No call waits for ever: when nothing is left to do, each has returned, and the session is dead
  and its end notified if one of them was not cancelled. -/
  settles : (after f xs).AtRest → (∀ k, (after f xs).session.closings k = .returned) ∧
    ∀ k < (after f xs).session.called, k ∉ (after f xs).cancelled →
      (after f xs).isAlive = false ∧ (after f xs).notices = 1

theorem after_append (f : Option Active) (xs ys : List Event) :
    after f (xs ++ ys) = (after f xs).run ys := run_append _ _ _

/-- Whatever happens to a session, it keeps what it promises. -/
theorem promises_kept (f : Option Active) (xs : List Event) : Promises f xs := by
  obtain ⟨cs, gs, sound⟩ : ∃ cs gs, (after f xs).Sound cs gs := (sound_start f).run xs
  have down : Down f (after f xs) ((start f).sent xs) := (down_start f).run xs
  refine
    { dead := fun n heard => sound.dead_of_notice heard
      final := fun dead ys => ?_
      once := ⟨sound.notices_le, fun past => ?_⟩
      most := fun n => ⟨?_, (sound.attends n).loses⟩
      each := fun {n ys} there unnotified notified => ?_
      down := ?_
      first := fun {k} called further there => ?_
      returns := fun {k x} pending past => ?_
      settles := fun rests =>
        ⟨sound.returned_of_atRest rests, fun k called there => sound.ended_of_atRest rests called there⟩ }
  · rw [after_append]
    exact sound.dead_run dead ys
  · exact sound.session.noticed.trans (by rw [past]; rfl)
  · exact Nat.le_trans (sound.attends n).count_le (Nat.le_trans (sound.attends n).next_le sound.notices_le)
  · obtain ⟨cs', gs', later⟩ := sound.run ys
    rw [after_append] at notified
    rw [List.append_assoc, after_append, run_append]
    exact (later.count_of_received (sound.inTime_run (sound.inTime_of_unnotified there unnotified) ys)).trans
      notified
  · cases down with
    | stands forward holder none calls =>
      rw [none]
      exact List.nil_prefix
    | down forward once => exact ⟨[], by rw [List.append_nil, once]⟩
  · cases down with
    | stands forward holder none calls =>
      exact absurd (((calls k).resolve_left further).2 called) there
    | down forward once => exact once
  · rw [after_append] at past
    exact return_cases sound.session pending past

/-- Two calls close a session with a forward that the server granted. The second waits until the
forward is cancelled. -/
def closedTwice : List Event :=
  [.subscribe, .close, .close, .advance 0, .advance 1, .owner .take, .owner (.result (.ok .cancelled)),
    .advance 0, .advance 0, .advance 0, .advance 1, .advance 1, .advance 1, .owner .take, .owner .notify,
    .owner .finish]

/-- The forward is cancelled once, both calls return, and the session is dead when the receiver hears
of it. -/
theorem promises_kept_closed_twice :
    (after (some (.granted "localhost" 0)) closedTwice).takenDown
        ((start (some (.granted "localhost" 0))).sent closedTwice) = [.granted "localhost" 0] ∧
      (after (some (.granted "localhost" 0)) closedTwice).isAlive = false ∧
      ((after (some (.granted "localhost" 0)) (closedTwice ++ [.receive 0])).arrivals 0).count .notice = 1 := by
  have promises := promises_kept (some (.granted "localhost" 0)) closedTwice
  have begun := promises_kept (some (.granted "localhost" 0)) [.subscribe]
  have returned (k : Nat) :
      (after (some (.granted "localhost" 0)) closedTwice).session.closings k = .returned := by
    obtain ⟨cs, gs, sound⟩ := (sound_start (some (.granted "localhost" 0))).run closedTwice
    rcases Nat.lt_or_ge k 2 with there | late
    · interval_cases k <;> rfl
    · exact sound.session.called k late
  have rests : (after (some (.granted "localhost" 0)) closedTwice).AtRest :=
    ⟨fun k => by simp only [Session.apply, Session.advance, returned], rfl, .inr rfl⟩
  obtain ⟨dead, notified⟩ := (promises.settles rests).2 0 (by decide) (by decide)
  exact ⟨promises.first (k := 0) (by decide) (by decide) (by decide), dead,
    begun.each (by decide) rfl notified⟩

end Observed
end BridgeKeeper.Ssh
