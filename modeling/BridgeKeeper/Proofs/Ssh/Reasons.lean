import BridgeKeeper.Proofs.Ssh.Answers

/-!
# What a request is told

An answer is what the connection said to the command, or tells that the owner left before it executed
the command. There are two such answers: what was queued by then is told that the connection ended, in
the words of a command that failed, and what was not queued is told that nobody is connected.
-/
namespace BridgeKeeper.Ssh.Owner

variable {cs : List Command} {gs : List (Job × Except String Grant)} {o o' : Owner} {x : Event}

/-- Why a request is answered. -/
inductive Reason (gs : List (Job × Except String Grant)) (o : Owner) (t : Ticket) :
    Except Error Grant → Prop
  | heard {j : Job} {r : Except String Grant} : (j, r) ∈ gs → j.ticket = t →
    Reason gs o t (r.mapError j.command.failure)
  | drained {j : Job} : o.isOpen = false → j ∈ o.queued → j ∉ o.executed → j.ticket = t →
    Reason gs o t (.error (j.command.failure ended))
  | refused : o.isOpen = false → (∀ j ∈ o.queued, j.ticket ≠ t) → Reason gs o t (.error .disconnected)

def Founded (gs : List (Job × Except String Grant)) (o : Owner) : Prop :=
  ∀ a ∈ o.answers, Reason gs o a.1 a.2

theorem mem_repliesTo {js : List Job} {f : Job → Except Error Grant} {a : Ticket × Except Error Grant}
    (told : a ∈ o.repliesTo js f) : ∃ j ∈ js, a = (j.ticket, f j) := by
  obtain ⟨j, there, rfl⟩ := List.mem_map.mp told
  exact ⟨j, (List.mem_filter.mp there).1, rfl⟩

/-- Reasons remain. -/
theorem Reason.turn {t : Ticket} {a : Except Error Grant} (h : Reason gs o t a)
    (ordered : o.Ordered cs gs) (turn : Turn o x o') : Reason (gs ++ o.hears x) o' t a := by
  cases h with
  | heard given own => exact .heard (List.mem_append_left _ given) own
  | drained closed queued executed own =>
    obtain ⟨closed', queued', executed'⟩ := ordered.stays closed turn
    exact .drained closed' (by rwa [queued']) (by rwa [executed']) own
  | refused closed others =>
    obtain ⟨closed', queued', -⟩ := ordered.stays closed turn
    exact .refused closed' (by rwa [queued'])

/-- The reasons of an owner that leaves. -/
theorem Ordered.farewell_reason (h : o.Ordered cs gs) (accepts : o.isOpen = true) {q : Owner}
    (queue : ∀ j ∈ q.queue, j ∈ o.queue) (others : q.placed ++ q.waiting = o.placed ++ o.waiting)
    (closed : o'.isOpen = false) (queued : o'.queued = o.queued) (executed : o'.executed = o.executed)
    {hs : List (Job × Except String Grant)} {a : Ticket × Except Error Grant} (told : a ∈ q.farewell) :
    Reason hs o' a.1 a.2 := by
  have served := h.served accepts
  rcases List.mem_append.mp told with drained | refused
  · obtain ⟨j, there, rfl⟩ := mem_repliesTo drained
    have mine := queue j there
    refine .drained closed ?_ ?_ rfl
    · rw [queued, served]
      exact List.mem_append_right _ mine
    · rw [executed]
      intro before
      have distinct := h.known.distinct
      rw [Owner.known, served, List.append_assoc, List.map_append, List.nodup_append, List.map_append,
        List.nodup_append] at distinct
      exact distinct.1.2.2 _ (List.mem_map_of_mem before) _ (List.mem_map_of_mem mine) rfl
  · obtain ⟨j, there, rfl⟩ := mem_repliesTo refused
    rw [others] at there
    refine .refused closed fun i before => ?_
    rw [queued] at before
    exact h.ticket_ne before there

theorem Founded.turn (h : o.Founded gs) (ordered : o.Ordered cs gs) (turn : Turn o x o') :
    o'.Founded (gs ++ o.hears x) := by
  have before (a : Ticket × Except Error Grant) (told : a ∈ o.answers) :
      Reason (gs ++ o.hears x) o' a.1 a.2 := (h a told).turn ordered turn
  have leaves (serving : o.stage = .serving) {q : Owner} (same : o' = q.leave)
      (queue : ∀ j ∈ q.queue, j ∈ o.queue) (others : q.placed ++ q.waiting = o.placed ++ o.waiting)
      (queued : q.queued = o.queued) (executed : q.executed = o.executed)
      (answers : q.answers = o.answers) : o'.Founded (gs ++ o.hears x) := by
    rw [leave_eq] at same
    have closed : o'.isOpen = false := by rw [same]; rfl
    have queued' : o'.queued = o.queued := by rw [same]; exact queued
    have executed' : o'.executed = o.executed := by rw [same]; exact executed
    intro a told
    rw [same, answers] at told
    rcases List.mem_append.mp told with old | new
    · exact before a old
    · exact ordered.farewell_reason (isOpen_of_serving serving) queue others closed queued' executed' new
  cases turn with
  | refused c closed =>
    rw [reply_eq] at before ⊢
    intro a told
    rcases List.mem_append.mp told with old | new
    · exact before a old
    · obtain ⟨j, there, rfl⟩ := mem_repliesTo new
      rw [List.mem_singleton.mp there]
      refine .refused closed fun i queued same => ?_
      have earlier := (List.getElem?_eq_some_iff.mp (ordered.mem_queued queued)).1
      rw [same, ← ordered.counted] at earlier
      exact Nat.lt_irrefl _ earlier
  | quits serving queue command =>
    refine leaves serving rfl (fun i there => ?_) ?_ rfl rfl rfl
    · rw [queue]
      exact List.mem_cons_of_mem _ there
    · simp only [keepPlace, List.append_assoc, List.take_append_drop]
  | deserted serving queue nobody => exact leaves serving rfl (fun _ there => there) rfl rfl rfl rfl
  | loses serving => exact leaves serving rfl (fun _ there => there) rfl rfl rfl rfl
  | @answers j r executing quiet =>
    rw [reply_eq] at before ⊢
    intro a told
    rcases List.mem_append.mp told with old | new
    · exact before a old
    · obtain ⟨i, there, rfl⟩ := mem_repliesTo new
      rw [List.mem_singleton.mp there]
      refine .heard (List.mem_append_right _ ?_) rfl
      rw [hears_result executing]
      exact List.mem_singleton_self _
  | _ => exact before

theorem Founded.run (h : o.Founded gs) (ordered : o.Ordered cs gs) (xs : List Event) :
    (o.run xs).Founded (gs ++ o.given xs) := by
  induction xs generalizing o cs gs with
  | nil =>
    rw [given, List.append_nil]
    exact h
  | cons x xs ih =>
    have turn := apply_turn o x
    rw [given, ← List.append_assoc]
    exact ih (h.turn ordered turn) (ordered.turn turn)

theorem founded_run (xs : List Event) : (run {} xs).Founded (given {} xs) :=
  Founded.run (by simp [Founded]) ordered_start xs

/-- The reason of an answer. -/
theorem reason_of_answer? {t : Ticket} {a : Except Error Grant} {xs : List Event}
    (told : (run {} xs).answer? t = some a) : Reason (given {} xs) (run {} xs) t a := by
  obtain ⟨before, after, split, -⟩ := List.lookup_eq_some_iff.mp told
  refine founded_run xs (t, a) ?_
  rw [split]
  exact List.mem_append_right _ List.mem_cons_self

theorem failure_ne_disconnected {c : Command} (other : c ≠ .disconnect) (reason : String) :
    c.failure reason ≠ .disconnected := by
  cases c with
  | disconnect => exact absurd rfl other
  | _ => exact nofun

/-- Whenever an owner leaves: a caller whose command was not executed, and who is there, is told that
nobody is connected exactly if the command was not in the queue by then. What was in the queue is told
that the connection ended, in the words of a channel or a forward that failed. -/
theorem unexecuted_told_disconnected_iff (xs : List Event) {t : Ticket} {c : Command}
    (known : (asked xs)[t]? = some c) (other : c ≠ .disconnect) (left : (run {} xs).isOpen = false)
    (unexecuted : ⟨t, c⟩ ∉ (run {} xs).executed) (there : t ∉ (run {} xs).gone) :
    ((run {} xs).answer? t = some (.error .disconnected) ↔ ⟨t, c⟩ ∉ (run {} xs).queued) ∧
      (⟨t, c⟩ ∈ (run {} xs).queued → (run {} xs).answer? t = some (.error (c.failure ended))) := by
  have ordered := ordered_run xs
  -- Tickets are told apart, so that whatever has this one is this request.
  have same {j : Job} (queued : j ∈ (run {} xs).queued) (own : j.ticket = t) : j = ⟨t, c⟩ := by
    have asked := ordered.mem_queued queued
    obtain ⟨t', c'⟩ := j
    cases own
    cases known.symm.trans asked
    rfl
  obtain ⟨a, told⟩ := exists_answer?_of_left known other there left
  cases reason_of_answer? told with
  | @heard j r given own =>
    have executed := ordered.executed_of_heard given
    rw [same (ordered.executed_inOrder.subset executed) own] at executed
    exact absurd executed unexecuted
  | @drained j closed queued executed own =>
    have mine := same queued own
    subst mine
    refine ⟨⟨fun told' => ?_, fun others => absurd queued others⟩, fun _ => told⟩
    have alike := told.symm.trans told'
    rw [Option.some.injEq, Except.error.injEq] at alike
    exact absurd alike (failure_ne_disconnected other _)
  | refused closed others =>
    have absent : ⟨t, c⟩ ∉ (run {} xs).queued := fun queued => others _ queued rfl
    exact ⟨⟨fun _ => absent, fun _ => told⟩, fun queued => absurd queued absent⟩

/-- A disconnect is taken while a forward and the cancelling of another one are queued behind it; a
channel is asked for once the owner is gone. -/
def interrupted : List Event :=
  [.request .disconnect, .request (.forward "a" 1), .request (.cancel "b" 2), .take,
    .request (.channel "d" 3)]

/-- The queued forward is told that forwarding failed, and only the late channel that nobody is
connected. -/
theorem unexecuted_told_disconnected_iff_interrupted :
    (run {} interrupted).answer? 1 = some (.error (.forwarding "Disconnected")) ∧
      (run {} interrupted).answer? 3 = some (.error .disconnected) := by
  have left : (run {} interrupted).isOpen = false := rfl
  obtain ⟨-, drained⟩ := unexecuted_told_disconnected_iff interrupted (t := 1) (c := .forward "a" 1) rfl
    nofun left (by decide) (by decide)
  obtain ⟨late, -⟩ := unexecuted_told_disconnected_iff interrupted (t := 3) (c := .channel "d" 3) rfl
    nofun left (by decide) (by decide)
  exact ⟨drained (by decide), late.mpr (by decide)⟩

end BridgeKeeper.Ssh.Owner
