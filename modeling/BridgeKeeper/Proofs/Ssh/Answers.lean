import BridgeKeeper.Proofs.Ssh.Order

/-!
# Every request is answered once

A request is pending, in one place, until it is answered; from then on it is pending nowhere, and is
not answered again.
-/
namespace BridgeKeeper.Ssh.Owner

variable {cs : List Command} {gs : List (Job × Except String Grant)} {o o' : Owner} {x : Event}

/-- The requests that wait for their turn. -/
def ahead (o : Owner) : List Job := o.queue ++ (o.placed ++ o.waiting)

def pending (o : Owner) : List Job := o.working ++ o.ahead

def places (o : Owner) (t : Ticket) : Nat := o.pending.countP (·.ticket = t)

def told (o : Owner) (t : Ticket) : Nat := o.answers.countP (·.1 = t)

theorem places_of_idle (idle : ∀ j, o.stage ≠ .executing j) (t : Ticket) :
    o.places t = o.ahead.countP (·.ticket = t) := by
  rw [places, pending, working_eq_nil idle]
  rfl

theorem places_of_executing {j : Job} (executing : o.stage = .executing j) (t : Ticket) :
    o.places t = o.ahead.countP (·.ticket = t) + if j.ticket = t then 1 else 0 := by
  rw [places, pending, working_of_executing executing, List.countP_append, List.countP_singleton,
    Nat.add_comm]
  simp

theorem countP_repliesTo_le (o : Owner) (js : List Job) (f : Job → Except Error Grant) (t : Ticket) :
    (o.repliesTo js f).countP (·.1 = t) ≤ js.countP (·.ticket = t) := by
  rw [repliesTo, List.countP_map, List.countP_filter]
  exact List.countP_mono_left fun j there waits => by simp at waits ⊢; exact waits.1

/-- Who waits for an answer gets one for each request. -/
theorem countP_repliesTo (o : Owner) {js : List Job} (f : Job → Except Error Grant) {t : Ticket}
    (waits : ∀ j ∈ js, j.ticket = t → o.awaits j = true) :
    (o.repliesTo js f).countP (·.1 = t) = js.countP (·.ticket = t) := by
  rw [repliesTo, List.countP_map, List.countP_filter]
  refine List.countP_congr fun j there => ?_
  simp
  exact waits j there

theorem countP_repliesTo_singleton (o : Owner) (j : Job) (f : Job → Except Error Grant) (t : Ticket) :
    (o.repliesTo [j] f).countP (·.1 = t) = if j.ticket = t then if o.awaits j then 1 else 0 else 0 := by
  rw [repliesTo, List.countP_map, List.countP_filter, List.countP_singleton]
  by_cases same : j.ticket = t <;> simp [same]

/-- Every request that was made is pending or answered, once. -/
structure Accounted (cs : List Command) (o : Owner) : Prop where
  once (t : Nat) : o.places t + o.told t ≤ if t < cs.length then 1 else 0
  each {t : Ticket} {c : Command} : cs[t]? = some c → c ≠ .disconnect → t ∉ o.gone →
    o.places t + o.told t = 1

theorem accounted_start : ({} : Owner).Accounted [] where
  once t := by simp [places, told, pending, working, ahead]
  each known := by simp at known

/-- Requests change places or are answered. -/
theorem Accounted.moves (h : o.Accounted cs) (gone : ∀ t ∈ o.gone, t ∈ o'.gone)
    (most : ∀ t, o'.places t + o'.told t ≤ o.places t + o.told t)
    (each : ∀ t c, cs[t]? = some c → c ≠ .disconnect → t ∉ o'.gone →
      o'.places t + o'.told t = o.places t + o.told t) : o'.Accounted cs where
  once t := Nat.le_trans (most t) (h.once t)
  each known other there := by
    rw [each _ _ known other there]
    exact h.each known other fun before => there (gone _ before)

/-- A request is made, which is then in one place, or is answered, or nobody waits for its answer. -/
theorem Accounted.request (h : o.Accounted cs) (c : Command) (gone : o'.gone = o.gone) {n : Nat}
    (moves : ∀ t, o'.places t + o'.told t = o.places t + o.told t + if cs.length = t then n else 0)
    (most : n ≤ 1) (each : c ≠ .disconnect → cs.length ∉ o.gone → n = 1) :
    o'.Accounted (cs ++ [c]) := by
  have next : (cs ++ [c]).length = cs.length + 1 := List.length_append
  have fresh := h.once cs.length
  rw [if_neg (Nat.lt_irrefl _)] at fresh
  refine ⟨fun t => ?_, fun {t c'} known other there => ?_⟩
  · rw [moves]
    by_cases new : cs.length = t
    · rw [if_pos new, ← new, if_pos (by omega)]
      omega
    · have old := h.once t
      rw [if_neg new]
      split at old <;> split <;> omega
  · rw [gone] at there
    rw [moves]
    by_cases new : cs.length = t
    · subst new
      rw [List.getElem?_concat_length] at known
      cases known
      rw [if_pos rfl, each other there]
      omega
    · have old : t < cs.length := by
        have before := (List.getElem?_eq_some_iff.mp known).1
        rw [next] at before
        exact Nat.lt_of_le_of_ne (Nat.le_of_lt_succ before) (Ne.symm new)
      rw [List.getElem?_append_left old] at known
      rw [if_neg new]
      exact h.each known other there

theorem Ordered.pending_asked (h : o.Ordered cs gs) {j : Job} (there : j ∈ o.pending) :
    cs[j.ticket]? = some j.command := by
  refine h.known.asked j ?_
  simp only [pending, ahead, List.mem_append] at there
  rw [Owner.known, List.mem_append, List.mem_append]
  rcases there with working | queue | placed | waiting
  · have executed : j ∈ o.executed := by
      rw [h.heard]
      exact List.mem_append_right _ working
    exact .inl (.inl (h.executed_inOrder.subset executed))
  · cases accepts : o.isOpen with
    | true =>
      rw [h.served accepts]
      exact .inl (.inl (List.mem_append_right _ queue))
    | false =>
      rw [(h.left accepts).2.1] at queue
      cases queue
  · exact .inl (.inr placed)
  · exact .inr waiting

/-- Nothing is pending with an owner that has left. -/
theorem Ordered.pending_eq_nil (h : o.Ordered cs gs) (closed : o.isOpen = false) : o.pending = [] := by
  obtain ⟨-, queue, placed, waiting⟩ := h.left closed
  have idle : o.working = [] := working_eq_nil fun j executing => by
    cases closed.symm.trans (isOpen_of_executing executing)
  rw [pending, ahead, idle, queue, placed, waiting]
  rfl

/-- Whoever asked for more than a disconnect and is there waits for the answer. -/
theorem awaits_of_asked {j : Job} (asked : cs[j.ticket]? = some j.command) {c : Command}
    (known : cs[j.ticket]? = some c) (other : c ≠ .disconnect) (there : j.ticket ∉ o.gone) :
    o.awaits j = true := by
  rw [known] at asked
  cases asked
  rw [awaits, decide_eq_true_eq]
  exact ⟨other, there⟩

theorem farewell_le (o : Owner) (t : Ticket) :
    o.farewell.countP (·.1 = t) ≤ o.ahead.countP (·.ticket = t) := by
  rw [farewell, ahead, List.countP_append, List.countP_append]
  exact Nat.add_le_add (o.countP_repliesTo_le _ _ t) (o.countP_repliesTo_le _ _ t)

theorem countP_farewell (o : Owner) {t : Ticket}
    (waits : ∀ j ∈ o.ahead, j.ticket = t → o.awaits j = true) :
    o.farewell.countP (·.1 = t) = o.ahead.countP (·.ticket = t) := by
  rw [farewell, ahead, List.countP_append, List.countP_append]
  congr 1
  · exact o.countP_repliesTo _ fun j there => waits j (List.mem_append_left _ there)
  · exact o.countP_repliesTo _ fun j there => waits j (List.mem_append_right _ there)

/-- All that waits for its turn when an owner leaves is answered. -/
theorem Accounted.leave (h : o.Accounted cs) (serving : o.stage = .serving)
    (asked : ∀ j ∈ o.ahead, cs[j.ticket]? = some j.command) : o.leave.Accounted cs := by
  have places := o.places_of_idle (by simp [serving])
  have nothing (t : Ticket) : o.leave.places t = 0 := by
    rw [leave_eq]
    rfl
  have told (t : Ticket) : o.leave.told t = o.told t + o.farewell.countP (·.1 = t) := by
    rw [leave_eq]
    exact List.countP_append
  have gone : o.leave.gone = o.gone := by rw [leave_eq]
  refine h.moves (fun t there => by rwa [gone]) (fun t => ?_) fun t c known other there => ?_
  · have answered := o.farewell_le t
    rw [nothing, told, places]
    omega
  · rw [gone] at there
    have answered := o.countP_farewell (t := t) fun j pending same => by
      subst same
      exact awaits_of_asked (asked j pending) known other there
    rw [nothing, told, answered, places]
    omega

theorem ahead_keepPlace (o : Owner) : o.keepPlace.ahead = o.ahead := by
  simp only [ahead, keepPlace, List.append_assoc, List.take_append_drop]

theorem Accounted.asks (h : o.Accounted cs) (ordered : o.Ordered cs gs) (c : Command)
    (turn : Turn o (.request c) o') : o'.Accounted (cs ++ [c]) := by
  cases turn with
  | queues _ accepts room =>
    refine h.request c rfl (n := 1) (fun t => ?_) (Nat.le_refl _) fun _ _ => rfl
    simp only [places, told, pending, working, ahead, enqueue, List.countP_append, List.countP_cons,
      List.countP_nil, decide_eq_true_eq, ordered.counted]
    omega
  | waits _ accepts full =>
    refine h.request c rfl (n := 1) (fun t => ?_) (Nat.le_refl _) fun _ _ => rfl
    simp only [places, told, pending, working, ahead, List.countP_append, List.countP_cons,
      List.countP_nil, decide_eq_true_eq, ordered.counted]
    omega
  | refused _ closed =>
    rw [reply_eq]
    refine h.request c rfl (n := if o.awaits ⟨cs.length, c⟩ then 1 else 0) (fun t => ?_) ?_ ?_
    · have answered := o.countP_repliesTo_singleton ⟨cs.length, c⟩ (fun _ => .error .disconnected) t
      rw [ordered.counted, Nat.add_assoc, ← answered]
      exact congrArg _ List.countP_append
    · split <;> omega
    · intro other there
      rw [if_pos]
      rw [awaits, decide_eq_true_eq]
      exact ⟨other, there⟩
  | rests quiet silent idle => exact absurd rfl (quiet c)

/-- Requests change places, or are given up by callers who are gone. -/
theorem Accounted.passes (h : o.Accounted cs) (gone : ∀ t ∈ o.gone, t ∈ o'.gone)
    (answers : o'.answers = o.answers) (most : ∀ t, o'.places t ≤ o.places t)
    (each : ∀ t ∉ o'.gone, o'.places t = o.places t) : o'.Accounted cs := by
  have told (t : Ticket) : o'.told t = o.told t := by rw [Owner.told, Owner.told, answers]
  refine h.moves gone (fun t => ?_) fun t c known other there => ?_
  · rw [told]
    exact Nat.add_le_add_right (most t) _
  · rw [told, each t there]

theorem Accounted.enter (h : o.Accounted cs) {t : Ticket} (turn : Turn o (.enter t) o') :
    o'.Accounted cs := by
  cases turn with
  | @enters before after j split =>
    have same (t : Ticket) :
        (({ o with placed := before ++ after } : Owner).enqueue j).places t = o.places t := by
      simp only [places, pending, working, ahead, enqueue, split, List.countP_append, List.countP_cons,
        List.countP_nil]
      omega
    exact h.passes (fun _ there => there) rfl (fun t => Nat.le_of_eq (same t)) fun t _ => same t
  | rests quiet silent idle => exact h

theorem Accounted.forget (h : o.Accounted cs) {t : Ticket} (turn : Turn o (.forget t) o') :
    o'.Accounted cs := by
  have fewer (js : List Job) (i : Ticket) :
      (js.filter fun j => j.ticket != t).countP (·.ticket = i) ≤ js.countP (·.ticket = i) :=
    List.Sublist.countP_le List.filter_sublist
  -- The requests of others stay where they are.
  have others (js : List Job) {i : Ticket} (other : i ≠ t) :
      (js.filter fun j => j.ticket != t).countP (·.ticket = i) = js.countP (·.ticket = i) := by
    rw [List.countP_filter]
    refine List.countP_congr fun j there => ?_
    simp only [Bool.and_eq_true, decide_eq_true_eq, bne_iff_ne, ne_eq, and_iff_left_iff_imp]
    exact fun same => same ▸ other
  have grows : ∀ i ∈ o.gone, i ∈ t :: o.gone := fun i there => List.mem_cons_of_mem t there
  cases turn with
  | goes asked missing =>
    refine h.passes grows rfl (fun i => ?_) fun i there => ?_
    · simp only [places, pending, working, ahead, List.countP_append]
      have fewer := fewer o.waiting i
      omega
    · simp only [places, pending, working, ahead, List.countP_append]
      rw [others o.waiting fun same => there (same ▸ List.mem_cons_self)]
  | @frees before after j asked split =>
    refine h.passes grows rfl (fun i => ?_) fun i there => ?_
    · rw [places, pending, ahead_keepPlace]
      simp only [places, pending, working, ahead, keepPlace, split, List.countP_append, List.countP_cons]
      have fewer := fewer o.waiting i
      omega
    · have other : i ≠ j.ticket := fun same => there (same ▸ List.mem_cons_self)
      rw [places, pending, ahead_keepPlace]
      simp only [places, pending, working, ahead, keepPlace, split, List.countP_append, List.countP_cons]
      rw [others o.waiting other, if_neg (by simp [Ne.symm other])]
      omega
  | rests quiet silent idle => exact h

/-- What is ahead of an owner that takes the next command. -/
theorem ahead_of_queue {j : Job} {rest : List Job} (queue : o.queue = j :: rest) :
    o.ahead = j :: ({ o with queue := rest } : Owner).keepPlace.ahead := by
  rw [ahead_keepPlace, ahead, queue]
  rfl

theorem Accounted.take (h : o.Accounted cs) (ordered : o.Ordered cs gs) (turn : Turn o .take o') :
    o'.Accounted cs := by
  cases turn with
  | @executes j rest serving queue command =>
    have same (t : Ticket) : ({ ({ o with queue := rest } : Owner).keepPlace with
        stage := .executing j, executed := o.executed ++ [j] } : Owner).places t = o.places t := by
      rw [places_of_executing rfl, o.places_of_idle (by simp [serving]), ahead_of_queue queue,
        List.countP_cons]
      simp [ahead]
    exact h.passes (fun _ there => there) rfl (fun t => Nat.le_of_eq (same t)) fun t _ => same t
  | @quits j rest serving queue command =>
    have idle : ∀ i, o.stage ≠ .executing i := by simp [serving]
    have ahead := ahead_of_queue queue
    have asked : ∀ i ∈ o.ahead, cs[i.ticket]? = some i.command := fun i there =>
      ordered.pending_asked (List.mem_append_right _ there)
    rw [ahead] at asked
    have fewer (t : Ticket) : o.places t =
        ({ o with queue := rest } : Owner).keepPlace.places t + if j.ticket = t then 1 else 0 := by
      rw [o.places_of_idle idle, places_of_idle (by exact idle), ahead, List.countP_cons]
      simp
    -- Nobody waits for an answer to the command that is taken.
    have taken : ({ o with queue := rest } : Owner).keepPlace.Accounted cs := by
      refine h.moves (fun _ there => there) (fun t => ?_) fun t c known other _ => ?_
      · rw [fewer]
        exact Nat.add_le_add_right (Nat.le_add_right _ _) _
      · have others : j.ticket ≠ t := fun same => by
          have quit := asked j List.mem_cons_self
          rw [same, known, command] at quit
          cases quit
          exact other rfl
        rw [fewer, if_neg others]
        rfl
    exact taken.leave serving fun i there => asked i (List.mem_cons_of_mem j there)
  | deserted serving queue nobody =>
    exact h.leave serving fun j there => ordered.pending_asked (List.mem_append_right _ there)
  | rests quiet silent idle => exact h

theorem Accounted.result (h : o.Accounted cs) (ordered : o.Ordered cs gs) {r : Except String Grant}
    (turn : Turn o (.result r) o') : o'.Accounted cs := by
  cases turn with
  | @revokes t address asked port executing gone =>
    have fewer (i : Ticket) := o.places_of_executing executing i
    refine h.passes (fun _ there => there) rfl (fun i => ?_) fun i there => ?_
    · rw [fewer, places_of_idle (by simp)]
      exact Nat.le_add_right _ _
    · have other : t ≠ i := fun same => there (same ▸ gone)
      rw [fewer, if_neg other, places_of_idle (by simp)]
      rfl
  | @answers j _ executing quiet =>
    have asked : cs[j.ticket]? = some j.command :=
      ordered.pending_asked (by simp [pending, working_of_executing executing])
    have told (i : Ticket) : (o.answers ++ o.repliesTo [j] fun _ => r.mapError j.command.failure).countP
        (·.1 = i) = o.told i + if j.ticket = i then if o.awaits j then 1 else 0 else 0 := by
      rw [List.countP_append, countP_repliesTo_singleton]
      rfl
    have fewer (i : Ticket) := o.places_of_executing executing i
    rw [reply_eq]
    refine h.moves (fun _ there => there) (fun i => ?_) fun i c known other there => ?_
    · rw [fewer, places_of_idle (by simp), Owner.told, told]
      simp only [ahead]
      repeat' split
      all_goals omega
    · rw [fewer, places_of_idle (by simp), Owner.told, told]
      simp only [ahead]
      by_cases same : j.ticket = i
      · subst same
        have waits : o.awaits j = true := awaits_of_asked asked known other there
        rw [if_pos rfl, if_pos rfl, if_pos waits]
        omega
      · rw [if_neg same, if_neg same]
        rfl
  | @revoked address port _ revoking =>
    have same (t : Ticket) : ({ o with stage := .serving } : Owner).places t = o.places t := by
      rw [places_of_idle (by simp), o.places_of_idle (by simp [revoking])]
      rfl
    exact h.passes (fun _ there => there) rfl (fun t => Nat.le_of_eq (same t)) fun t _ => same t
  | rests quiet silent idle => exact h

theorem Accounted.turn (h : o.Accounted cs) (ordered : o.Ordered cs gs) (turn : Turn o x o') :
    o'.Accounted (cs ++ asked [x]) := by
  have silently (asks : asked [x] = []) (same : o'.Accounted cs) : o'.Accounted (cs ++ asked [x]) := by
    rw [asks, List.append_nil]
    exact same
  have leaving (serving : o.stage = .serving) : o.leave.Accounted cs :=
    h.leave serving fun j there => ordered.pending_asked (List.mem_append_right _ there)
  -- Nothing is executed before and after the end is notified.
  have closes {s : Stage} {notices : Nat} (idle : ∀ j, o.stage ≠ .executing j)
      (idle' : ∀ j, s ≠ .executing j) :
      ({ o with stage := s, notices := notices } : Owner).Accounted cs := by
    have same (t : Ticket) :
        ({ o with stage := s, notices := notices } : Owner).places t = o.places t := by
      rw [places_of_idle (by exact idle'), o.places_of_idle idle]
      rfl
    exact h.passes (fun _ there => there) rfl (fun t => Nat.le_of_eq (same t)) fun t _ => same t
  cases x with
  | request c => exact h.asks ordered c turn
  | enter t => exact silently rfl (h.enter turn)
  | forget t => exact silently rfl (h.forget turn)
  | take => exact silently rfl (h.take ordered turn)
  | result r => exact silently rfl (h.result ordered turn)
  | share =>
    cases turn with
    | shares => exact silently rfl { h with }
    | rests quiet silent idle => exact silently rfl h
  | release =>
    cases turn with
    | releases => exact silently rfl { h with }
    | rests quiet silent idle => exact silently rfl h
  | lose =>
    cases turn with
    | loses serving => exact silently rfl (leaving serving)
    | rests quiet silent idle => exact silently rfl h
  | notify =>
    cases turn with
    | notifies left => exact silently rfl (closes (by simp [left]) (by simp))
    | rests quiet silent idle => exact silently rfl h
  | finish =>
    cases turn with
    | finishes told => exact silently rfl (closes (by simp [told]) (by simp))
    | rests quiet silent idle => exact silently rfl h

theorem Accounted.run (h : o.Accounted cs) (ordered : o.Ordered cs gs) (xs : List Event) :
    (o.run xs).Accounted (cs ++ asked xs) := by
  induction xs generalizing o cs gs with
  | nil =>
    rw [asked, List.filterMap_nil, List.append_nil]
    exact h
  | cons x xs ih =>
    have turn := apply_turn o x
    rw [asked_cons, ← List.append_assoc]
    exact ih (h.turn ordered turn) (ordered.turn turn)

theorem accounted_run (xs : List Event) : (run {} xs).Accounted (asked xs) :=
  accounted_start.run ordered_start xs

theorem answer?_eq_none_iff {t : Ticket} : o.answer? t = none ↔ o.told t = 0 := by
  rw [answer?, List.lookup_eq_none_iff, told, List.countP_eq_zero]
  refine forall_congr' fun a => forall_congr' fun there => ?_
  rw [bne_iff_ne, ne_eq, decide_eq_true_eq, eq_comm]

/-- Once an owner has left, every caller that is there has its answer. -/
theorem exists_answer?_of_left {xs : List Event} {t : Ticket} {c : Command}
    (known : (asked xs)[t]? = some c) (other : c ≠ .disconnect) (there : t ∉ (run {} xs).gone)
    (left : (run {} xs).isOpen = false) : ∃ a, (run {} xs).answer? t = some a := by
  refine Option.ne_none_iff_exists'.mp fun none => ?_
  have once := (accounted_run xs).each known other there
  rw [answer?_eq_none_iff.mp none, places, (ordered_run xs).pending_eq_nil left] at once
  cases once

end BridgeKeeper.Ssh.Owner
