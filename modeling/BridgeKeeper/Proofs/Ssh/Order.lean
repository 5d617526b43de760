import BridgeKeeper.Proofs.Ssh.Turn

/-!
# Commands are executed in order

Requests are told apart by their tickets. What an owner executes is the beginning of what was queued,
in that order, and nothing once it has left its queue.
-/
namespace BridgeKeeper.Ssh

/-- Some requests, each of them once, as they were asked for. -/
structure Requests (cs : List Command) (js : List Job) : Prop where
  asked : ∀ j ∈ js, cs[j.ticket]? = some j.command
  distinct : (js.map Job.ticket).Nodup

namespace Requests

variable {cs : List Command} {js is : List Job}

theorem lt_length (h : Requests cs js) {j : Job} (there : j ∈ js) : j.ticket < cs.length :=
  (List.getElem?_eq_some_iff.mp (h.asked j there)).1

/-- Requests with the same ticket are the same. -/
theorem eq_of_ticket (h : Requests cs js) {i j : Job} (hi : i ∈ js) (hj : j ∈ js)
    (same : i.ticket = j.ticket) : i = j := by
  have command : some i.command = some j.command := by
    rw [← h.asked i hi, ← h.asked j hj, same]
  obtain ⟨t, c⟩ := i
  obtain ⟨t', c'⟩ := j
  cases same
  cases command
  rfl

theorem of_perm (h : Requests cs js) (same : is.Perm js) : Requests cs is where
  asked j there := h.asked j (same.subset there)
  distinct := (same.map _).nodup_iff.mpr h.distinct

theorem of_sublist (h : Requests cs js) (part : is.Sublist js) : Requests cs is where
  asked j there := h.asked j (part.subset there)
  distinct := h.distinct.sublist (part.map _)

/-- What was asked stays so. -/
theorem later (h : Requests cs js) (c : Command) : Requests (cs ++ [c]) js where
  asked j there := by rw [List.getElem?_append_left (h.lt_length there), h.asked j there]
  distinct := h.distinct

/-- The next request has a ticket of its own. -/
theorem concat (h : Requests cs js) (c : Command) : Requests (cs ++ [c]) (js ++ [⟨cs.length, c⟩]) where
  asked j there := by
    rcases List.mem_append.mp there with known | new
    · exact (h.later c).asked j known
    · rw [List.mem_singleton.mp new, List.getElem?_concat_length]
  distinct := by
    rw [List.map_append, List.nodup_append]
    refine ⟨h.distinct, by simp, fun t known t' new => ?_⟩
    obtain ⟨j, there, rfl⟩ := List.mem_map.mp known
    have before := h.lt_length there
    rw [List.map_singleton, List.mem_singleton] at new
    rw [new]
    exact Nat.ne_of_lt before

end Requests

namespace Owner

variable {cs : List Command} {gs : List (Job × Except String Grant)} {o o' : Owner} {x : Event}

def working (o : Owner) : List Job :=
  match o.stage with
  | .executing j => [j]
  | _ => []

theorem working_of_executing {j : Job} (executing : o.stage = .executing j) : o.working = [j] := by
  simp [working, executing]

theorem working_eq_nil (idle : ∀ j, o.stage ≠ .executing j) : o.working = [] := by
  unfold working
  split
  · next j executing => exact absurd executing (idle j)
  · rfl

theorem isOpen_of_serving (serving : o.stage = .serving) : o.isOpen = true := by
  simp [isOpen, serving]

theorem isOpen_of_executing {j : Job} (executing : o.stage = .executing j) : o.isOpen = true := by
  simp [isOpen, executing]

def known (o : Owner) : List Job := o.queued ++ o.placed ++ o.waiting

/-- How an owner stands to which this was asked and which was given these answers by the connection. -/
structure Ordered (cs : List Command) (gs : List (Job × Except String Grant)) (o : Owner) : Prop where
  counted : o.requests = cs.length
  gone : ∀ t ∈ o.gone, t < cs.length
  known : Requests cs o.known
  /-- While the queue is open, what was queued and not executed is in the queue. -/
  served : o.isOpen = true → o.queued = o.executed ++ o.queue
  left : o.isOpen = false → o.executed <+: o.queued ∧ o.queue = [] ∧ o.placed = [] ∧ o.waiting = []
  heard : o.executed = gs.map Prod.fst ++ o.working
  meant : ∀ j ∈ o.executed, j.command ≠ .disconnect

theorem ordered_start : ({} : Owner).Ordered [] [] where
  counted := rfl
  gone := by simp
  known := ⟨by simp [Owner.known], by simp [Owner.known]⟩
  served _ := rfl
  left := nofun
  heard := rfl
  meant := by simp

theorem Ordered.executed_inOrder (h : o.Ordered cs gs) : o.executed <+: o.queued := by
  cases accepts : o.isOpen with
  | true => exact ⟨_, (h.served accepts).symm⟩
  | false => exact (h.left accepts).1

theorem Ordered.mem_queued (h : o.Ordered cs gs) {j : Job} (queued : j ∈ o.queued) :
    cs[j.ticket]? = some j.command :=
  h.known.asked j (List.mem_append_left _ (List.mem_append_left _ queued))

theorem Ordered.eq_of_ticket (h : o.Ordered cs gs) {i j : Job} (hi : i ∈ o.queued) (hj : j ∈ o.queued)
    (same : i.ticket = j.ticket) : i = j :=
  h.known.eq_of_ticket (List.mem_append_left _ (List.mem_append_left _ hi))
    (List.mem_append_left _ (List.mem_append_left _ hj)) same

/-- What the connection answered was executed. -/
theorem Ordered.executed_of_heard (h : o.Ordered cs gs) {j : Job} {r : Except String Grant}
    (given : (j, r) ∈ gs) : j ∈ o.executed := by
  rw [h.heard]
  exact List.mem_append_left _ (List.mem_map_of_mem given)

/-- What is queued is not what still waits for room. -/
theorem Ordered.ticket_ne (h : o.Ordered cs gs) {i j : Job} (queued : i ∈ o.queued)
    (outside : j ∈ o.placed ++ o.waiting) : i.ticket ≠ j.ticket := by
  have distinct := h.known.distinct
  rw [Owner.known, List.append_assoc, List.map_append, List.nodup_append] at distinct
  exact distinct.2.2 _ (List.mem_map_of_mem queued) _ (List.mem_map_of_mem outside)

/-- An owner leaves its queue, whatever it tells those who wait. -/
theorem Ordered.leave (h : o.Ordered cs gs) (serving : o.stage = .serving)
    (answers : List (Ticket × Except Error Grant)) :
    ({ o with stage := .leaving, queue := [], placed := [], waiting := [], answers := answers } :
      Owner).Ordered cs gs := by
  have heard := h.heard
  rw [working_eq_nil (by simp [serving])] at heard
  exact
    { counted := h.counted, gone := h.gone
      known := h.known.of_sublist (by simp [Owner.known])
      served := nofun, left := fun _ => ⟨h.executed_inOrder, rfl, rfl, rfl⟩
      heard := heard, meant := h.meant }

theorem Ordered.request (h : o.Ordered cs gs) (c : Command) (turn : Turn o (.request c) o') :
    o'.Ordered (cs ++ [c]) gs := by
  have next : (cs ++ [c]).length = cs.length + 1 := List.length_append
  have gone : ∀ t ∈ o.gone, t < (cs ++ [c]).length := fun t there => by
    rw [next]
    exact Nat.lt_succ_of_lt (h.gone t there)
  have counted : o.requests + 1 = (cs ++ [c]).length := by rw [h.counted, next]
  cases turn with
  | queues _ accepts room =>
    have known : (({ o with requests := o.requests + 1 } : Owner).enqueue ⟨o.requests, c⟩).known.Perm
        (o.known ++ [⟨cs.length, c⟩]) := by
      simp only [Owner.known, enqueue, h.counted, List.perm_iff_count, List.count_append]
      omega
    exact
      { counted := counted, gone := gone, known := (h.known.concat c).of_perm known
        served := fun _ => by simp [enqueue, h.served accepts]
        left := fun closed => nomatch accepts.symm.trans closed
        heard := h.heard, meant := h.meant }
  | waits _ accepts full =>
    have known := h.known.concat c
    rw [← h.counted, Owner.known, List.append_assoc] at known
    exact
      { counted := counted, gone := gone, known := known, served := h.served
        left := fun closed => nomatch accepts.symm.trans closed
        heard := h.heard, meant := h.meant }
  | refused _ closed =>
    rw [reply_eq]
    exact
      { counted := counted, gone := gone, known := h.known.later c, served := h.served, left := h.left
        heard := h.heard, meant := h.meant }
  | rests quiet silent idle => exact absurd rfl (quiet c)

/-- A place that became free changes hands. -/
theorem Ordered.keepPlace (h : o.Ordered cs gs) : o.keepPlace.Ordered cs gs where
  counted := h.counted
  gone := h.gone
  known := by
    have known := h.known
    rw [Owner.known, ← List.take_append_drop 1 o.waiting, ← List.append_assoc] at known
    simpa [Owner.known, Owner.keepPlace] using known
  served := h.served
  left closed := by
    obtain ⟨executed, queue, placed, waiting⟩ := h.left closed
    exact ⟨executed, queue, by simp [Owner.keepPlace, placed, waiting],
      by simp [Owner.keepPlace, waiting]⟩
  heard := h.heard
  meant := h.meant

theorem Ordered.forget (h : o.Ordered cs gs) {t : Ticket} (turn : Turn o (.forget t) o') :
    o'.Ordered cs gs := by
  have gone (asked : t < o.requests) : ∀ i ∈ t :: o.gone, i < cs.length := fun i there => by
    rcases List.mem_cons.mp there with rfl | before
    · exact Nat.lt_of_lt_of_eq asked h.counted
    · exact h.gone i before
  cases turn with
  | goes asked missing =>
    refine
      { counted := h.counted, gone := gone asked, known := h.known.of_sublist ?_, served := h.served
        left := fun closed => ?_, heard := h.heard, meant := h.meant }
    · exact (List.Sublist.refl _).append List.filter_sublist
    · obtain ⟨executed, queue, placed, waiting⟩ := h.left closed
      exact ⟨executed, queue, placed, by simp [waiting]⟩
  | frees asked split =>
    refine Ordered.keepPlace
      { counted := h.counted, gone := gone asked, known := h.known.of_sublist ?_, served := h.served
        left := fun closed => ?_, heard := h.heard, meant := h.meant }
    · rw [Owner.known, Owner.known, split]
      exact ((List.Sublist.refl _).append
        ((List.Sublist.refl _).append (List.sublist_cons_self _ _))).append List.filter_sublist
    · obtain ⟨executed, queue, placed, waiting⟩ := h.left closed
      rw [split] at placed
      simp at placed
  | rests quiet silent idle => exact h

theorem Ordered.enter (h : o.Ordered cs gs) {t : Ticket} (turn : Turn o (.enter t) o') :
    o'.Ordered cs gs := by
  cases turn with
  | @enters before after j split =>
    have accepts : o.isOpen = true := by
      cases accepts : o.isOpen with
      | true => rfl
      | false =>
        have placed := (h.left accepts).2.2.1
        rw [split] at placed
        simp at placed
    have known : (({ o with placed := before ++ after } : Owner).enqueue j).known.Perm o.known := by
      simp only [Owner.known, enqueue, split, List.perm_iff_count, List.count_append, List.count_cons,
        List.count_nil]
      omega
    exact
      { counted := h.counted, gone := h.gone, known := h.known.of_perm known
        served := fun _ => by simp [enqueue, h.served accepts]
        left := fun closed => nomatch accepts.symm.trans closed
        heard := h.heard, meant := h.meant }
  | rests quiet silent idle => exact h

theorem Ordered.take (h : o.Ordered cs gs) (turn : Turn o .take o') : o'.Ordered cs gs := by
  cases turn with
  | @executes j rest serving queue command =>
    have accepts := isOpen_of_serving serving
    have served := h.served accepts
    have heard := h.heard
    rw [queue] at served
    rw [working_eq_nil (by simp [serving]), List.append_nil] at heard
    have known := h.keepPlace.known
    exact
      { counted := h.counted, gone := h.gone, known := known
        served := fun _ => by simp [Owner.keepPlace, served]
        left := nofun
        heard := by simp [working, heard]
        meant := fun i there => by
          rcases List.mem_append.mp there with before | now
          · exact h.meant i before
          · rw [List.mem_singleton.mp now]
            exact command }
  | @quits j rest serving queue command =>
    rw [leave_eq]
    exact h.leave serving _
  | deserted serving queue nobody =>
    rw [leave_eq]
    exact h.leave serving _
  | rests quiet silent idle => exact h

/-- An owner goes on to another stage, with its queue open or closed as before. -/
theorem Ordered.goOn (h : o.Ordered cs gs) {s : Stage} {gs' : List (Job × Except String Grant)}
    (same : ({ o with stage := s } : Owner).isOpen = o.isOpen)
    (heard : o.executed = gs'.map Prod.fst ++ ({ o with stage := s } : Owner).working)
    (answers : List (Ticket × Except Error Grant)) (revoked : List (String × Nat)) (notices : Nat) :
    ({ o with stage := s, answers := answers, revoked := revoked, notices := notices } :
      Owner).Ordered cs gs' where
  counted := h.counted
  gone := h.gone
  known := h.known
  served accepts := h.served (same.symm.trans accepts)
  left closed := h.left (same.symm.trans closed)
  heard := heard
  meant := h.meant

theorem Ordered.result (h : o.Ordered cs gs) {r : Except String Grant} (turn : Turn o (.result r) o') :
    o'.Ordered cs (gs ++ o.hears (.result r)) := by
  have ended {j : Job} (executing : o.stage = .executing j) (r : Except String Grant) :
      o.executed = (gs ++ [(j, r)]).map Prod.fst := by
    rw [h.heard, working_of_executing executing, List.map_append]
    rfl
  cases turn with
  | @revokes t address asked port executing gone =>
    rw [hears_result executing]
    refine h.goOn (s := .revoking address port) (isOpen_of_executing executing).symm ?_ _ _ _
    rw [ended executing (.ok (.listening port))]
    exact (List.append_nil _).symm
  | @answers j _ executing quiet =>
    rw [hears_result executing, reply_eq]
    refine h.goOn (s := .serving) (isOpen_of_executing executing).symm ?_ _ _ _
    rw [ended executing r]
    exact (List.append_nil _).symm
  | @revoked address port _ revoking =>
    have accepts : o.isOpen = true := by simp [isOpen, revoking]
    have silent : o.hears (.result r) = [] := by simp [hears, revoking]
    have idle : o.working = [] := working_eq_nil (by simp [revoking])
    rw [silent, List.append_nil]
    refine h.goOn (s := .serving) accepts.symm ?_ _ _ _
    rw [h.heard, idle]
    rfl
  | rests quiet silent idle =>
    rw [silent, List.append_nil]
    exact h

theorem Ordered.turn (h : o.Ordered cs gs) (turn : Turn o x o') :
    o'.Ordered (cs ++ asked [x]) (gs ++ o.hears x) := by
  have silently (asks : asked [x] = []) (silent : o.hears x = []) (same : o'.Ordered cs gs) :
      o'.Ordered (cs ++ asked [x]) (gs ++ o.hears x) := by
    rw [asks, silent, List.append_nil, List.append_nil]
    exact same
  -- The queue is closed before the end is notified, and stays so.
  have idle (closed : o.isOpen = false) : o.executed = gs.map Prod.fst ++ [] := by
    rw [h.heard, working_eq_nil fun j executing => ?_]
    cases closed.symm.trans (isOpen_of_executing executing)
  cases x with
  | request c =>
    have silent : o.hears (.request c) = [] := rfl
    rw [silent, List.append_nil]
    exact h.request c turn
  | enter t => exact silently rfl rfl (h.enter turn)
  | forget t => exact silently rfl rfl (h.forget turn)
  | take => exact silently rfl rfl (h.take turn)
  | result r =>
    have asks : asked [.result r] = [] := rfl
    rw [asks, List.append_nil]
    exact h.result turn
  | share =>
    cases turn with
    | shares => exact silently rfl rfl { h with }
    | rests quiet silent idle => exact silently rfl rfl h
  | release =>
    cases turn with
    | releases => exact silently rfl rfl { h with }
    | rests quiet silent idle => exact silently rfl rfl h
  | lose =>
    cases turn with
    | loses serving =>
      refine silently rfl rfl ?_
      rw [leave_eq]
      exact h.leave serving _
    | rests quiet silent idle => exact silently rfl rfl h
  | notify =>
    cases turn with
    | notifies left =>
      have closed : o.isOpen = false := by simp [isOpen, left]
      exact silently rfl rfl (h.goOn (s := .closing) closed.symm (idle closed) _ _ _)
    | rests quiet silent idle => exact silently rfl rfl h
  | finish =>
    cases turn with
    | finishes told =>
      have closed : o.isOpen = false := by simp [isOpen, told]
      exact silently rfl rfl (h.goOn (s := .over) closed.symm (idle closed) _ _ _)
    | rests quiet silent idle => exact silently rfl rfl h

theorem asked_cons (x : Event) (xs : List Event) : asked (x :: xs) = asked [x] ++ asked xs :=
  asked_append [x] xs

theorem Ordered.run (h : o.Ordered cs gs) (xs : List Event) :
    (o.run xs).Ordered (cs ++ asked xs) (gs ++ o.given xs) := by
  induction xs generalizing o cs gs with
  | nil =>
    rw [asked, List.filterMap_nil, given, List.append_nil, List.append_nil]
    exact h
  | cons x xs ih =>
    rw [asked_cons, given, ← List.append_assoc, ← List.append_assoc]
    exact ih (h.turn (apply_turn o x))

theorem ordered_run (xs : List Event) : (run {} xs).Ordered (asked xs) (given {} xs) :=
  ordered_start.run xs

/-- Once an owner has left its queue, nothing is queued or executed any more. -/
theorem Ordered.stays (h : o.Ordered cs gs) (closed : o.isOpen = false) (turn : Turn o x o') :
    o'.isOpen = false ∧ o'.queued = o.queued ∧ o'.executed = o.executed := by
  have notServing (serving : o.stage = .serving) : False := by
    cases closed.symm.trans (isOpen_of_serving serving)
  have notExecuting {j : Job} (executing : o.stage = .executing j) : False := by
    cases closed.symm.trans (isOpen_of_executing executing)
  obtain ⟨-, -, placed, -⟩ := h.left closed
  cases turn with
  | queues c accepts room => cases closed.symm.trans accepts
  | waits c accepts full => cases closed.symm.trans accepts
  | refused c closed =>
    rw [reply_eq]
    exact ⟨closed, rfl, rfl⟩
  | enters split | frees asked split => simp [placed] at split
  | executes serving queue command | quits serving queue command => exact (notServing serving).elim
  | deserted serving queue nobody => exact (notServing serving).elim
  | loses serving => exact (notServing serving).elim
  | revokes executing gone => exact (notExecuting executing).elim
  | answers executing quiet => exact (notExecuting executing).elim
  | revoked revoking => simp [isOpen, revoking] at closed
  | goes asked missing => exact ⟨closed, rfl, rfl⟩
  | shares => exact ⟨closed, rfl, rfl⟩
  | releases => exact ⟨closed, rfl, rfl⟩
  | notifies left => exact ⟨rfl, rfl, rfl⟩
  | finishes told => exact ⟨rfl, rfl, rfl⟩
  | rests quiet silent idle => exact ⟨closed, rfl, rfl⟩

theorem Ordered.stays_run (h : o.Ordered cs gs) (closed : o.isOpen = false) (xs : List Event) :
    (o.run xs).isOpen = false ∧ (o.run xs).queued = o.queued ∧ (o.run xs).executed = o.executed := by
  induction xs generalizing o cs gs with
  | nil => exact ⟨closed, rfl, rfl⟩
  | cons x xs ih =>
    have turn := apply_turn o x
    obtain ⟨closed', queued, executed⟩ := h.stays closed turn
    obtain ⟨closed'', queued', executed'⟩ := ih (h.turn turn) closed'
    exact ⟨closed'', queued'.trans queued, executed'.trans executed⟩

end Owner
end BridgeKeeper.Ssh
