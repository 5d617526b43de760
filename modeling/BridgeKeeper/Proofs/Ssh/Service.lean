import BridgeKeeper.Proofs.Ssh.Reasons

/-!
# What callers can rely on

However requests, callers who go away and the end of a connection fall together: commands are executed
in the order in which they were queued, forwards that nobody owns are cancelled, and nobody waits for
ever. What is queued is never passed by anything that comes later, so that the answer comes after a
number of steps of the owner that is known in advance.
-/
namespace BridgeKeeper.Ssh.Owner

variable {cs : List Command} {gs : List (Job × Except String Grant)} {o o' : Owner} {x : Event}

theorem run_append (o : Owner) (xs ys : List Event) : o.run (xs ++ ys) = (o.run xs).run ys :=
  List.foldl_append

/-! ## What only grows -/

theorem Turn.answers_grow (turn : Turn o x o') : o.answers <+: o'.answers := by
  cases turn with
  | refused c closed => exact reply_answers { o with requests := o.requests + 1 } _ _
  | answers executing quiet => exact o.reply_answers _ _
  | @quits j rest serving queue command =>
    exact ({ o with queue := rest } : Owner).keepPlace.leave_answers
  | deserted serving queue nobody => exact o.leave_answers
  | loses serving => exact o.leave_answers
  | _ => exact List.prefix_rfl

/-- An answer stands. -/
theorem answers_run (o : Owner) (xs : List Event) : o.answers <+: (o.run xs).answers := by
  induction xs generalizing o with
  | nil => exact List.prefix_rfl
  | cons x xs ih => exact (apply_turn o x).answers_grow.trans (ih _)

theorem Turn.gone_subset (turn : Turn o x o') : o.gone ⊆ o'.gone := by
  cases turn with
  | goes asked missing => exact List.subset_cons_self _ _
  | frees asked split => exact List.subset_cons_self _ _
  | _ => simp [enqueue, keepPlace]

theorem gone_run (o : Owner) (xs : List Event) : o.gone ⊆ (o.run xs).gone := by
  induction xs generalizing o with
  | nil => exact List.Subset.refl _
  | cons x xs ih => exact List.Subset.trans (apply_turn o x).gone_subset (ih _)

/-! ## Forwards that nobody owns -/

theorem orphans_eq_nil (silent : o.hears x = []) : o.orphans x = [] := by
  simp [orphans, silent]

theorem Turn.revoked_eq (turn : Turn o x o') : o'.revoked = o.revoked ++ o.orphans x := by
  have silently (silent : o.hears x = []) (same : o'.revoked = o.revoked) :
      o'.revoked = o.revoked ++ o.orphans x := by
    rw [orphans_eq_nil silent, same, List.append_nil]
  cases turn with
  | @revokes t address asked port executing gone =>
    rw [orphans_result executing, if_pos gone]
    rfl
  | answers executing quiet =>
    rw [quiet, reply_eq, List.append_nil]
  | revoked revoking => exact silently (by simp [hears, revoking]) rfl
  | rests quiet silent idle => exact silently silent rfl
  | _ => exact silently rfl (by simp [enqueue, keepPlace])

/-- What is revoked is what was granted to callers who were gone. -/
theorem revoked_run (o : Owner) (xs : List Event) : (o.run xs).revoked = o.revoked ++ o.orphaned xs := by
  induction xs generalizing o with
  | nil => exact (List.append_nil _).symm
  | cons x xs ih =>
    have rest : ((o.apply x).run xs).revoked = (o.apply x).revoked ++ (o.apply x).orphaned xs := ih _
    rw [(apply_turn o x).revoked_eq, List.append_assoc] at rest
    exact rest

/-! ## How long a request waits -/

theorem Turn.room (turn : Turn o x o') (room : o.queue.length + o.placed.length ≤ capacity) :
    o'.queue.length + o'.placed.length ≤ capacity := by
  cases turn with
  | queues c accepts room =>
    simp only [enqueue, List.length_append, List.length_singleton]
    omega
  | enters split =>
    simp only [split, enqueue, List.length_append, List.length_cons, List.length_nil] at room ⊢
    omega
  | frees asked split =>
    simp only [split, keepPlace, List.length_append, List.length_cons, List.length_take] at room ⊢
    omega
  | executes serving queue command =>
    simp only [queue, keepPlace, List.length_append, List.length_cons, List.length_take] at room ⊢
    omega
  | _ => simp [room]

/-- The queue and the places that are kept there never take more than there is room for. -/
theorem room_run {o : Owner} (room : o.queue.length + o.placed.length ≤ capacity) (xs : List Event) :
    (o.run xs).queue.length + (o.run xs).placed.length ≤ capacity := by
  induction xs generalizing o with
  | nil => exact room
  | cons x xs ih => exact ih ((apply_turn o x).room room)

/-- How often an owner goes on before it looks for the next command. -/
def Stage.rest : Stage → Nat
  | .executing _ => 2
  | .revoking _ _ => 1
  | .serving | .leaving | .closing | .over => 0

/-- A request that is answered when the owner has gone on so many times. -/
inductive Within (o : Owner) (t : Ticket) (n : Nat) : Prop
  | told : o.told t ≠ 0 → Within o t n
  | executing {j : Job} : o.stage = .executing j → j.ticket = t → 0 < n → Within o t n
  | queued {before after : List Job} {j : Job} : o.queue = before ++ j :: after → j.ticket = t →
    o.stage.rest + 3 * before.length + 2 ≤ n → Within o t n

theorem told_mono (grows : o.answers <+: o'.answers) {t : Ticket} (told : o.told t ≠ 0) :
    o'.told t ≠ 0 := by
  obtain ⟨more, split⟩ := grows
  rw [Owner.told, ← split, List.countP_append]
  exact Nat.ne_of_gt (Nat.add_pos_left (Nat.pos_of_ne_zero told) _)

theorem told_of_closed (ordered : o.Ordered cs gs) (accounted : o.Accounted cs) {t : Ticket} {c : Command}
    (known : cs[t]? = some c) (other : c ≠ .disconnect) (there : t ∉ o.gone) (closed : o.isOpen = false) :
    o.told t = 1 := by
  have once := accounted.each known other there
  rw [places, ordered.pending_eq_nil closed, List.countP_nil, Nat.zero_add] at once
  exact once

namespace Within

variable {t : Ticket} {n : Nat}

/-- What leaves the stage and the beginning of the queue as they are leaves a request where it is. -/
theorem stays (h : o.Within t n) (stage : o'.stage = o.stage) {new : List Job}
    (queue : o'.queue = o.queue ++ new) (answers : o'.answers = o.answers) : o'.Within t n := by
  cases h with
  | told answered =>
    refine .told ?_
    rwa [Owner.told, answers]
  | executing now own left => exact .executing (stage.trans now) own left
  | @queued before after j split own bound =>
    have longer : o'.queue = before ++ j :: (after ++ new) := by
      rw [queue, split, List.append_assoc]
      rfl
    exact .queued longer own (by rwa [stage])

/-- The next command is taken, which is the one asked for or was in front of it. -/
theorem executes (h : o.Within t n) {j : Job} {rest : List Job} (serving : o.stage = .serving)
    (queue : o.queue = j :: rest) (stage : o'.stage = .executing j) (queue' : o'.queue = rest)
    (answers : o'.answers = o.answers) : o'.Within t (n - 1) := by
  cases h with
  | told answered =>
    refine .told ?_
    rwa [Owner.told, answers]
  | executing now => cases serving.symm.trans now
  | @queued before after i split own bound =>
    rw [queue] at split
    rw [serving] at bound
    cases before with
    | nil =>
      cases split
      refine .executing stage own ?_
      simp only [Stage.rest, List.length_nil] at bound
      omega
    | cons b before =>
      cases split
      refine .queued queue' own ?_
      simp only [stage, Stage.rest, List.length_cons] at bound ⊢
      omega

/-- The owner comes to the end of something else. -/
theorem passes (h : o.Within t n) (other : ∀ j, o.stage = .executing j → j.ticket ≠ t)
    (closer : o'.stage.rest < o.stage.rest) (queue : o'.queue = o.queue)
    (grows : o.answers <+: o'.answers) : o'.Within t (n - 1) := by
  cases h with
  | told answered => exact .told (told_mono grows answered)
  | executing now own => exact absurd own (other _ now)
  | queued split own bound => exact .queued (queue.trans split) own (by omega)

/-- The connection answers a command, and the owner its caller. -/
theorem answers (h : o.Within t n) (ordered : o.Ordered cs gs) {c : Command}
    (known : cs[t]? = some c) (other : c ≠ .disconnect) {j : Job} (executing : o.stage = .executing j)
    (there : t ∉ o.gone) (r : Except Error Grant) :
    ({ o.reply j r with stage := .serving } : Owner).Within t (n - 1) := by
  by_cases own : j.ticket = t
  · subst own
    have asked : cs[j.ticket]? = some j.command :=
      ordered.pending_asked (by simp [pending, working_of_executing executing])
    have waits : o.awaits j = true := awaits_of_asked asked known other there
    refine .told ?_
    rw [reply_eq, Owner.told, List.countP_append, countP_repliesTo_singleton, if_pos rfl, if_pos waits]
    exact Nat.succ_ne_zero _
  · refine h.passes (fun i now same => ?_) ?_ (o.reply_queue j r) (o.reply_answers j r)
    · cases executing.symm.trans now
      exact own same
    · rw [executing]
      exact Nat.succ_pos _

/-- Nothing keeps a request from its answer, and each step of the owner brings it closer. -/
theorem turn (h : o.Within t n) (ordered : o.Ordered cs gs) (accounted : o.Accounted cs) {c : Command}
    (known : cs[t]? = some c) (other : c ≠ .disconnect) (turn : Turn o x o') (there : t ∉ o'.gone) :
    o'.Within t (n - (o.goesOn x).toNat) := by
  have leaves (closed : o'.isOpen = false) : o'.Within t (n - (o.goesOn x).toNat) := by
    have later : (cs ++ asked [x])[t]? = some c := by
      rw [List.getElem?_append_left (List.getElem?_eq_some_iff.mp known).1, known]
    refine .told ?_
    rw [told_of_closed (ordered.turn turn) (accounted.turn ordered turn) later other there closed]
    exact Nat.one_ne_zero
  cases turn with
  | queues c accepts room => exact h.stays rfl rfl rfl
  | waits c accepts full => exact h.stays rfl (List.append_nil _).symm rfl
  | refused c closed =>
    rw [reply_eq] at leaves ⊢
    exact leaves closed
  | enters split => exact h.stays rfl rfl rfl
  | goes asked missing => exact h.stays rfl (List.append_nil _).symm rfl
  | frees asked split => exact h.stays rfl (List.append_nil _).symm rfl
  | executes serving queue command =>
    rw [goesOn_take serving]
    exact h.executes serving queue rfl rfl rfl
  | quits serving queue command => exact leaves (leave_isOpen _)
  | deserted serving queue nobody => exact leaves (leave_isOpen _)
  | loses serving => exact leaves (leave_isOpen _)
  | @revokes i address asked port executing gone =>
    have others (j : Job) (now : o.stage = .executing j) : j.ticket ≠ t := fun own => by
      cases executing.symm.trans now
      exact there (own ▸ gone)
    rw [goesOn_executing executing]
    exact h.passes others (by rw [executing]; exact Nat.lt_succ_self _) rfl List.prefix_rfl
  | answers executing quiet =>
    rw [goesOn_executing executing]
    exact h.answers ordered known other executing (by rwa [reply_gone] at there) _
  | revoked revoking =>
    rw [goesOn_revoking revoking]
    refine h.passes (fun j now => ?_) (by rw [revoking]; exact Nat.succ_pos _) rfl List.prefix_rfl
    cases revoking.symm.trans now
  | shares => exact h.stays rfl (List.append_nil _).symm rfl
  | releases => exact h.stays rfl (List.append_nil _).symm rfl
  | notifies left => exact leaves rfl
  | finishes told => exact leaves rfl
  | rests quiet silent idle =>
    cases still : o.goesOn x with
    | false => exact h
    | true =>
      -- The owner looked for a command in vain, so that nothing is queued or executed.
      obtain ⟨queue, serving⟩ := idle still
      cases h with
      | told answered => exact .told answered
      | executing now => cases serving.symm.trans now
      | queued split => simp [queue] at split

theorem run (h : o.Within t n) (ordered : o.Ordered cs gs)
    (accounted : o.Accounted cs) {c : Command} (known : cs[t]? = some c) (other : c ≠ .disconnect)
    (xs : List Event) (there : t ∉ (o.run xs).gone) : (o.run xs).Within t (n - o.steps xs) := by
  induction xs generalizing o cs gs n with
  | nil => exact h
  | cons x xs ih =>
    have turn := apply_turn o x
    have now : t ∉ (o.apply x).gone := fun gone => there (gone_run _ xs gone)
    have later : (cs ++ asked [x])[t]? = some c := by
      rw [List.getElem?_append_left (List.getElem?_eq_some_iff.mp known).1, known]
    rw [steps, ← Nat.sub_sub]
    exact ih (h.turn ordered accounted known other turn now) (ordered.turn turn)
      (accounted.turn ordered turn) later there

end Within

/-- What is queued is answered when the owner has gone on as often as a full queue takes. -/
theorem Ordered.within (h : o.Ordered cs gs) (accounted : o.Accounted cs)
    (room : o.queue.length + o.placed.length ≤ capacity) {j : Job} (queued : j ∈ o.queued)
    (other : j.command ≠ .disconnect) (there : j.ticket ∉ o.gone) :
    o.Within j.ticket (3 * capacity + 1) := by
  by_cases answered : o.told j.ticket = 0
  · have known := h.mem_queued queued
    have once := accounted.each known other there
    rw [answered, Nat.add_zero, places] at once
    have pending : 0 < o.pending.countP (·.ticket = j.ticket) := by rw [once]; exact Nat.one_pos
    obtain ⟨i, pends, same⟩ := List.countP_pos_iff.mp pending
    have own : i.ticket = j.ticket := of_decide_eq_true same
    rcases List.mem_append.mp pends with working | ahead
    · unfold Owner.working at working
      split at working
      · next k executing =>
        rw [List.mem_singleton] at working
        exact .executing executing (working ▸ own) (Nat.succ_pos _)
      · cases working
    rcases List.mem_append.mp ahead with queue | outside
    · obtain ⟨before, after, split⟩ := List.append_of_mem queue
      refine .queued split own ?_
      have rest : o.stage.rest ≤ 2 := by cases o.stage <;> simp [Stage.rest]
      rw [split, List.length_append, List.length_cons] at room
      omega
    · exact absurd own.symm (h.ticket_ne queued outside)
  · exact .told answered

/-- Why an owner leaves. -/
inductive Ends (o : Owner) : Event → Prop
  | told {j : Job} {rest : List Job} : o.queue = j :: rest → j.command = .disconnect → Ends o .take
  | deserted : o.queue = [] → o.controllers = 0 → Ends o .take
  | lost : Ends o .lose

theorem Turn.ends (turn : Turn o x o') (accepts : o.isOpen = true) (closed : o'.isOpen = false) :
    o.stage = .serving ∧ o.Ends x := by
  cases turn with
  | quits serving queue command => exact ⟨serving, .told queue command⟩
  | deserted serving queue nobody => exact ⟨serving, .deserted queue nobody⟩
  | loses serving => exact ⟨serving, .lost⟩
  | refused c shut => cases accepts.symm.trans shut
  | executes => cases closed
  | revokes => cases closed
  | answers => cases closed
  | revoked => cases closed
  | notifies left => simp [isOpen, left] at accepts
  | finishes told => simp [isOpen, told] at accepts
  | _ => cases accepts.symm.trans closed

/-- What callers can rely on after some events. Nobody waits for an answer to a disconnect. -/
structure Serves (xs : List Event) : Prop where
  /-- What is queued was asked for, each request once. -/
  queued : Requests (asked xs) (run {} xs).queued
  /-- Commands are executed at most once each, in the order in which they were queued. -/
  inOrder : (run {} xs).executed <+: (run {} xs).queued
  /-- While the owner is there, what is queued is executed or in the queue. -/
  served : (run {} xs).isOpen = true → (run {} xs).queued = (run {} xs).executed ++ (run {} xs).queue
  /-- What is executed is what the connection was asked to answer. -/
  heard : (run {} xs).executed = (given {} xs).map Prod.fst ++ (run {} xs).working
  /-- The owner leaves between two commands, when it is told to disconnect, when the connection is lost,
  or when nobody is left who could send it a command. -/
  stops : ∀ {x : Event}, (run {} xs).isOpen = true → (run {} (xs ++ [x])).isOpen = false →
    (run {} xs).stage = .serving ∧ (run {} xs).Ends x
  /-- Nothing is executed once the owner has left. -/
  left : (run {} xs).isOpen = false → ∀ ys, (run {} (xs ++ ys)).executed = (run {} xs).executed
  /-- The forwards that were granted to callers who were gone, and no others, are cancelled, under the
  port that the connection named. -/
  revoked : (run {} xs).revoked = orphaned {} xs
  /-- No request is answered twice, nor answered and yet to be executed. -/
  once : ∀ t, (run {} xs).places t + (run {} xs).told t ≤ 1
  /-- No request is lost: it waits for its answer, or has it. -/
  each : ∀ {t : Ticket} {c : Command}, (asked xs)[t]? = some c → c ≠ .disconnect →
    t ∉ (run {} xs).gone → (run {} xs).places t + (run {} xs).told t = 1
  /-- What was queued is answered when the owner has gone on so many times or has left. -/
  ends : ∀ {j : Job} {ys : List Event}, j ∈ (run {} xs).queued → j.command ≠ .disconnect →
    j.ticket ∉ (run {} (xs ++ ys)).gone →
    3 * capacity < (run {} xs).steps ys ∨ (run {} (xs ++ ys)).isOpen = false →
    (run {} (xs ++ ys)).told j.ticket = 1
  /-- With an owner that has left nobody waits, neither for an answer nor for room. -/
  empty : (run {} xs).isOpen = false → (run {} xs).pending = []
  /-- An answer stands. -/
  stands : ∀ ys, (run {} xs).answers <+: (run {} (xs ++ ys)).answers
  /-- Who asked for a command that is executed is told what the connection answered. -/
  result : ∀ {j : Job} {a : Except Error Grant}, j ∈ (run {} xs).executed →
    (run {} xs).answer? j.ticket = some a →
    ∃ r, (j, r) ∈ given {} xs ∧ a = r.mapError j.command.failure
  /-- Everybody else is told of an error. -/
  error : ∀ {t : Ticket} {a : Except Error Grant}, (∀ j ∈ (run {} xs).executed, j.ticket ≠ t) →
    (run {} xs).answer? t = some a → ∃ e, a = .error e
  /-- Who comes when the owner has left is told so at once. -/
  late : ∀ {c : Command}, (run {} xs).isOpen = false → c ≠ .disconnect →
    (run {} (xs ++ [.request c])).answer? (run {} xs).requests = some (.error .disconnected)

theorem told_of_within (xs ys : List Event) {j : Job} (queued : j ∈ (run {} xs).queued)
    (other : j.command ≠ .disconnect) (there : j.ticket ∉ (run {} (xs ++ ys)).gone)
    (enough : 3 * capacity < (run {} xs).steps ys ∨ (run {} (xs ++ ys)).isOpen = false) :
    (run {} (xs ++ ys)).told j.ticket = 1 := by
  have ordered := ordered_run xs
  have accounted := accounted_run xs
  have known := ordered.mem_queued queued
  have later : (asked (xs ++ ys))[j.ticket]? = some j.command := by
    rw [asked_append, List.getElem?_append_left (List.getElem?_eq_some_iff.mp known).1, known]
  rcases enough with enough | closed
  · rw [run_append] at there
    have now : j.ticket ∉ (run {} xs).gone := fun gone => there (gone_run _ ys gone)
    have within := (ordered.within accounted (room_run (Nat.zero_le _) xs) queued other now).run ordered
      accounted known other ys there
    rw [Nat.sub_eq_zero_of_le enough, ← run_append] at within
    rw [← run_append] at there
    have answered : (run {} (xs ++ ys)).told j.ticket ≠ 0 := by
      cases within with
      | told answered => exact answered
      | executing _ _ left => exact absurd left (Nat.lt_irrefl 0)
      | queued _ _ bound => exact absurd bound (Nat.not_succ_le_zero _)
    have once := (accounted_run (xs ++ ys)).each later other there
    omega
  · exact told_of_closed (ordered_run _) (accounted_run _) later other there closed

theorem answer?_of_refused (xs : List Event) {c : Command} (closed : (run {} xs).isOpen = false)
    (other : c ≠ .disconnect) :
    (run {} (xs ++ [.request c])).answer? (run {} xs).requests = some (.error .disconnected) := by
  have ordered := ordered_run xs
  have accounted := accounted_run xs
  rw [run_append]
  generalize run {} xs = o at *
  have there : o.requests ∉ o.gone := fun gone => by
    have before := ordered.gone _ gone
    rw [ordered.counted] at before
    exact Nat.lt_irrefl _ before
  have fresh : o.answer? o.requests = none := by
    have once := accounted.once o.requests
    rw [ordered.counted, if_neg (Nat.lt_irrefl _), ← ordered.counted] at once
    exact answer?_eq_none_iff.mpr (Nat.eq_zero_of_add_eq_zero (Nat.le_zero.mp once)).2
  have answers : (o.run [.request c]).answers =
      o.answers ++ [(o.requests, .error .disconnected)] := by
    have shut : ({ o with requests := o.requests + 1 } : Owner).isOpen ≠ true :=
      Bool.eq_false_iff.mp closed
    rw [run, List.foldl_cons, List.foldl_nil, apply, request, if_neg shut, reply,
      if_neg (by simp [other, there])]
  rw [answer?] at fresh ⊢
  rw [answers, List.lookup_append, fresh, Option.none_or, List.lookup_cons_self]

theorem answer_of_executed (xs : List Event) {j : Job} {a : Except Error Grant}
    (executed : j ∈ (run {} xs).executed) (told : (run {} xs).answer? j.ticket = some a) :
    ∃ r, (j, r) ∈ given {} xs ∧ a = r.mapError j.command.failure := by
  have ordered := ordered_run xs
  have queued := ordered.executed_inOrder.subset executed
  cases reason_of_answer? told with
  | @heard i r given own =>
    have mine := ordered.executed_inOrder.subset (ordered.executed_of_heard given)
    cases ordered.eq_of_ticket mine queued own
    exact ⟨r, given, rfl⟩
  | drained closed queued' unexecuted own =>
    cases ordered.eq_of_ticket queued' queued own
    exact absurd executed unexecuted
  | refused closed others => exact absurd rfl (others j queued)

theorem error_of_unexecuted (xs : List Event) {t : Ticket} {a : Except Error Grant}
    (unexecuted : ∀ j ∈ (run {} xs).executed, j.ticket ≠ t) (told : (run {} xs).answer? t = some a) :
    ∃ e, a = .error e := by
  cases reason_of_answer? told with
  | heard given own => exact absurd own (unexecuted _ ((ordered_run xs).executed_of_heard given))
  | drained => exact ⟨_, rfl⟩
  | refused => exact ⟨_, rfl⟩

/-- Whatever happens to an owner, callers can rely on it. -/
theorem serves_run (xs : List Event) : Serves xs where
  queued := (ordered_run xs).known.of_sublist ((List.sublist_append_left _ _).trans
    (List.sublist_append_left _ _))
  inOrder := (ordered_run xs).executed_inOrder
  served := (ordered_run xs).served
  heard := (ordered_run xs).heard
  stops accepts closed := by
    rw [run_append] at closed
    exact (apply_turn _ _).ends accepts closed
  left closed ys := by
    rw [run_append]
    exact ((ordered_run xs).stays_run closed ys).2.2
  revoked := revoked_run {} xs
  once t := Nat.le_trans ((accounted_run xs).once t) (by split <;> omega)
  each := (accounted_run xs).each
  ends := told_of_within xs _
  empty closed := (ordered_run xs).pending_eq_nil closed
  stands ys := by
    rw [run_append]
    exact answers_run _ ys
  result := answer_of_executed xs
  error := error_of_unexecuted xs
  late := answer?_of_refused xs

/-- A forward is granted to a caller who is gone, a channel is refused, and the owner is told to
disconnect while a cancelling is queued behind that. -/
def abandoned : List Event :=
  [.request (.forward "a" 0), .request (.channel "b" 1), .forget 0, .take, .result (.ok (.listening 7)),
    .result (.ok .cancelled), .take, .result (.error rejected), .request .disconnect,
    .request (.cancel "c" 2), .take]

/-- The forward is cancelled, the cancelling is told of an error, once, and nothing more is executed,
while a forward that is asked for afterwards is refused. -/
theorem serves_run_abandoned :
    (run {} abandoned).revoked = [("a", 7)] ∧ (run {} abandoned).told 3 = 1 ∧
      (∃ e, (run {} abandoned).answer? 3 = some (.error e)) ∧
      (∀ ys, (run {} (abandoned ++ ys)).executed = [⟨0, .forward "a" 0⟩, ⟨1, .channel "b" 1⟩]) ∧
      (run {} (abandoned ++ [.request (.forward "d" 3)])).answer? 4 = some (.error .disconnected) := by
  have serves := serves_run abandoned
  have closed : (run {} abandoned).isOpen = false := rfl
  have told : (run {} (abandoned ++ [])).told 3 = 1 :=
    serves.ends (j := ⟨3, .cancel "c" 2⟩) (by decide) nofun (by decide) (.inr rfl)
  obtain ⟨a, answer⟩ : ∃ a, (run {} abandoned).answer? 3 = some a := ⟨_, rfl⟩
  obtain ⟨e, rfl⟩ := serves.error (by decide) answer
  exact ⟨serves.revoked.trans (by decide), told, ⟨e, answer⟩, fun ys => serves.left closed ys,
    serves.late closed nofun⟩

end BridgeKeeper.Ssh.Owner
