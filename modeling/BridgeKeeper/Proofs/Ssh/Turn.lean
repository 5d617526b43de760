import BridgeKeeper.Ssh.Owner

/-!
# All that can happen to an owner

Each event does one of a few things to an owner: a request is queued, waits or is turned away, a caller
fills its place or goes away, a command is executed and answered, or the owner leaves its queue. What
holds of an owner after any events is shown by going through these. Beside them stands what is seen of
a run from outside: what was asked, and what the connection answered.
-/
namespace BridgeKeeper.Ssh.Owner

/-! ## What is seen of a run -/

def asked (xs : List Event) : List Command :=
  xs.filterMap fun
    | .request c => some c
    | _ => none

theorem asked_append (xs ys : List Event) : asked (xs ++ ys) = asked xs ++ asked ys :=
  List.filterMap_append

/-- What the connection answers to the command that it executes. -/
def hears (o : Owner) (x : Event) : List (Job × Except String Grant) :=
  match x, o.stage with
  | .result r, .executing j => [(j, r)]
  | _, _ => []

def given (o : Owner) : List Event → List (Job × Except String Grant)
  | [] => []
  | x :: xs => o.hears x ++ (o.apply x).given xs

/-- Whether an owner goes on with an event: it looks for a command, or hears from the connection. -/
def goesOn (o : Owner) (x : Event) : Bool :=
  match x, o.stage with
  | .take, .serving | .result _, .executing _ | .result _, .revoking _ _ => true
  | _, _ => false

theorem goesOn_take {o : Owner} (serving : o.stage = .serving) : o.goesOn .take = true := by
  simp [goesOn, serving]

theorem goesOn_executing {o : Owner} {j : Job} (executing : o.stage = .executing j) (r : Except String Grant) :
    o.goesOn (.result r) = true := by
  simp [goesOn, executing]

theorem goesOn_revoking {o : Owner} {address : String} {port : Nat}
    (revoking : o.stage = .revoking address port) (r : Except String Grant) : o.goesOn (.result r) = true := by
  simp [goesOn, revoking]

def steps (o : Owner) : List Event → Nat
  | [] => 0
  | x :: xs => (o.goesOn x).toNat + (o.apply x).steps xs

def granted? : Job × Except String Grant → Option (String × Nat)
  | (⟨_, .forward address _⟩, .ok (.listening port)) => some (address, port)
  | _ => none

/-- The forwards that are granted to callers who are gone by then. -/
def orphans (o : Owner) (x : Event) : List (String × Nat) :=
  ((o.hears x).filter fun a => a.1.ticket ∈ o.gone).filterMap granted?

def orphaned (o : Owner) : List Event → List (String × Nat)
  | [] => []
  | x :: xs => o.orphans x ++ (o.apply x).orphaned xs

theorem hears_result {o : Owner} {j : Job} (executing : o.stage = .executing j)
    (r : Except String Grant) : o.hears (.result r) = [(j, r)] := by
  simp [hears, executing]

theorem orphans_result {o : Owner} {j : Job} (executing : o.stage = .executing j)
    (r : Except String Grant) :
    o.orphans (.result r) = if j.ticket ∈ o.gone then (granted? (j, r)).toList else [] := by
  rw [orphans, hears_result executing]
  by_cases gone : j.ticket ∈ o.gone
  · cases granted : granted? (j, r) <;> simp [gone, granted]
  · simp [gone]

theorem granted?_eq_some_iff {j : Job} {r : Except String Grant} {address : String} {port : Nat} :
    granted? (j, r) = some (address, port) ↔
      (∃ asked, j.command = .forward address asked) ∧ r = .ok (.listening port) := by
  constructor
  · intro granted
    unfold granted? at granted
    split at granted
    · next same =>
      cases same
      cases granted
      exact ⟨⟨_, rfl⟩, rfl⟩
    · cases granted
  · obtain ⟨t, c⟩ := j
    rintro ⟨⟨asked, rfl⟩, rfl⟩
    rfl

/-- What is no grant of a forward leaves nothing behind. -/
theorem orphans_result_eq_nil {o : Owner} {j : Job} {r : Except String Grant}
    (executing : o.stage = .executing j) (other : ∀ address asked port,
      j.command = .forward address asked → r = .ok (.listening port) → False) :
    o.orphans (.result r) = [] := by
  rw [orphans_result executing]
  cases granted : granted? (j, r) with
  | none => exact ite_self _
  | some f =>
    obtain ⟨⟨asked, command⟩, ok⟩ := granted?_eq_some_iff.mp granted
    exact (other _ _ _ command ok).elim

/-! ## Answers -/

def awaits (o : Owner) (j : Job) : Bool := decide (j.command ≠ .disconnect ∧ j.ticket ∉ o.gone)

def repliesTo (o : Owner) (js : List Job) (f : Job → Except Error Grant) :
    List (Ticket × Except Error Grant) :=
  (js.filter o.awaits).map fun j => (j.ticket, f j)

theorem reply_eq (o : Owner) (j : Job) (r : Except Error Grant) :
    o.reply j r = { o with answers := o.answers ++ o.repliesTo [j] fun _ => r } := by
  by_cases silent : j.command = .disconnect ∨ j.ticket ∈ o.gone
  · have deaf : o.awaits j = false := by
      rw [awaits, decide_eq_false_iff_not, ne_eq, ← not_or, Classical.not_not]
      exact silent
    simp [reply, repliesTo, silent, deaf]
  · have waits : o.awaits j = true := by
      rw [awaits, decide_eq_true_eq, ne_eq, ← not_or]
      exact silent
    simp [reply, repliesTo, silent, waits]

theorem replies_eq (o : Owner) (js : List Job) (f : Job → Except Error Grant) :
    js.foldl (fun o j => o.reply j (f j)) o = { o with answers := o.answers ++ o.repliesTo js f } := by
  induction js generalizing o with
  | nil => simp [repliesTo]
  | cons j js ih =>
    have first : o.repliesTo (j :: js) f = (o.repliesTo [j] fun _ => f j) ++ o.repliesTo js f := by
      by_cases waits : o.awaits j = true <;> simp [repliesTo, waits]
    rw [List.foldl_cons, ih, reply_eq, first, ← List.append_assoc]
    rfl

/-- What an owner tells when it leaves: that the connection ended to those whose requests are queued,
and that it is gone to those who still wait for room. -/
def farewell (o : Owner) : List (Ticket × Except Error Grant) :=
  (o.repliesTo o.queue fun j => .error (j.command.failure ended)) ++
    o.repliesTo (o.placed ++ o.waiting) fun _ => .error .disconnected

theorem leave_eq (o : Owner) :
    o.leave = { o with
      stage := .leaving, queue := [], placed := [], waiting := []
      answers := o.answers ++ o.farewell } := by
  rw [leave, replies_eq, replies_eq, farewell, ← List.append_assoc]
  rfl

section
variable (o : Owner) (j : Job) (r : Except Error Grant)

@[simp] theorem reply_queue : (o.reply j r).queue = o.queue := by rw [reply_eq]

@[simp] theorem reply_placed : (o.reply j r).placed = o.placed := by rw [reply_eq]

@[simp] theorem reply_gone : (o.reply j r).gone = o.gone := by rw [reply_eq]

@[simp] theorem reply_revoked : (o.reply j r).revoked = o.revoked := by rw [reply_eq]

@[simp] theorem leave_queue : o.leave.queue = [] := by rw [leave_eq]

@[simp] theorem leave_placed : o.leave.placed = [] := by rw [leave_eq]

@[simp] theorem leave_gone : o.leave.gone = o.gone := by rw [leave_eq]

@[simp] theorem leave_revoked : o.leave.revoked = o.revoked := by rw [leave_eq]

@[simp] theorem leave_isOpen : o.leave.isOpen = false := by rw [leave_eq]; rfl

theorem reply_answers : o.answers <+: (o.reply j r).answers := by
  rw [reply_eq]
  exact List.prefix_append _ _

theorem leave_answers : o.answers <+: o.leave.answers := by
  rw [leave_eq]
  exact List.prefix_append _ _

end

/-! ## Events -/

inductive Turn (o : Owner) : Event → Owner → Prop
  | queues (c : Command) : o.isOpen = true → o.queue.length + o.placed.length < capacity →
    Turn o (.request c) ({ o with requests := o.requests + 1 }.enqueue ⟨o.requests, c⟩)
  | waits (c : Command) : o.isOpen = true → capacity ≤ o.queue.length + o.placed.length →
    Turn o (.request c)
      { o with requests := o.requests + 1, waiting := o.waiting ++ [⟨o.requests, c⟩] }
  | refused (c : Command) : o.isOpen = false →
    Turn o (.request c)
      ({ o with requests := o.requests + 1 }.reply ⟨o.requests, c⟩ (.error .disconnected))
  | enters {before after : List Job} {j : Job} : o.placed = before ++ j :: after →
    Turn o (.enter j.ticket) ({ o with placed := before ++ after }.enqueue j)
  | goes {t : Ticket} : t < o.requests → (∀ j ∈ o.placed, j.ticket ≠ t) →
    Turn o (.forget t) { o with
      gone := t :: o.gone, waiting := o.waiting.filter fun j => j.ticket != t }
  | frees {before after : List Job} {j : Job} : j.ticket < o.requests →
    o.placed = before ++ j :: after → Turn o (.forget j.ticket) { o with
      gone := j.ticket :: o.gone, waiting := o.waiting.filter fun i => i.ticket != j.ticket
      placed := before ++ after }.keepPlace
  | executes {j : Job} {rest : List Job} : o.stage = .serving → o.queue = j :: rest →
    j.command ≠ .disconnect →
    Turn o .take { { o with queue := rest }.keepPlace with
      stage := .executing j, executed := o.executed ++ [j] }
  | quits {j : Job} {rest : List Job} : o.stage = .serving → o.queue = j :: rest →
    j.command = .disconnect → Turn o .take { o with queue := rest }.keepPlace.leave
  | deserted : o.stage = .serving → o.queue = [] → o.controllers = 0 → Turn o .take o.leave
  | loses : o.stage = .serving → Turn o .lose o.leave
  | revokes {t : Ticket} {address : String} {asked port : Nat} :
    o.stage = .executing ⟨t, .forward address asked⟩ → t ∈ o.gone →
    Turn o (.result (.ok (.listening port))) { o with
      stage := .revoking address port, revoked := o.revoked ++ [(address, port)] }
  | answers {j : Job} {r : Except String Grant} : o.stage = .executing j → o.orphans (.result r) = [] →
    Turn o (.result r) { o.reply j (r.mapError j.command.failure) with stage := .serving }
  | revoked {address : String} {port : Nat} {r : Except String Grant} :
    o.stage = .revoking address port → Turn o (.result r) { o with stage := .serving }
  | shares : Turn o .share { o with controllers := o.controllers + 1 }
  | releases : Turn o .release { o with controllers := o.controllers - 1 }
  | notifies : o.stage = .leaving → Turn o .notify { o with stage := .closing, notices := o.notices + 1 }
  | finishes : o.stage = .closing → Turn o .finish { o with stage := .over }
  | rests {x : Event} : (∀ c, x ≠ .request c) → o.hears x = [] →
    (o.goesOn x = true → o.queue = [] ∧ o.stage = .serving) → Turn o x o

/-- The requests that have the same ticket as one that is looked for come apart at the first of them. -/
theorem find_ticket_eq_some {js : List Job} {t : Ticket} {j : Job}
    (found : js.find? (·.ticket = t) = some j) :
    ∃ before after, js = before ++ j :: after ∧ js.erase j = before ++ after ∧ j.ticket = t := by
  obtain ⟨same, before, after, split, earlier⟩ := List.find?_eq_some_iff_append.mp found
  have absent : j ∉ before := by
    intro there
    have other := earlier j there
    simp only [same] at other
    cases other
  refine ⟨before, after, split, ?_, by simpa using same⟩
  rw [split, List.erase_append_right _ absent, List.erase_cons_head]

theorem request_turn (o : Owner) (c : Command) : Turn o (.request c) (o.request c) := by
  rw [request]
  by_cases accepts : o.isOpen = true
  · have stays : ({ o with requests := o.requests + 1 } : Owner).isOpen = true := accepts
    rw [if_pos stays]
    split
    · next room => exact .queues c accepts room
    · next full => exact .waits c accepts (Nat.le_of_not_lt full)
  · have stays : ({ o with requests := o.requests + 1 } : Owner).isOpen ≠ true := accepts
    rw [if_neg stays]
    exact .refused c (eq_false_of_ne_true accepts)

theorem forget_turn (o : Owner) (t : Ticket) : Turn o (.forget t) (o.forget t) := by
  rw [forget]
  split
  · next asked =>
    dsimp only
    split
    · next j found =>
      obtain ⟨before, after, split, erased, rfl⟩ := find_ticket_eq_some found
      rw [erased]
      exact .frees asked split
    · next missing =>
      refine .goes asked fun j there same => ?_
      have other := List.find?_eq_none.mp missing j there
      simp [same] at other
  · exact .rests nofun rfl nofun

theorem serving_of_goesOn_take {o : Owner} (goes : o.goesOn .take = true) : o.stage = .serving := by
  unfold goesOn at goes
  split at goes
  · next serving => exact serving
  · next result _ => cases result
  · next result _ => cases result
  · cases goes

/-- What the owner does when it looks for a command: it executes the first one, leaves, or finds none. -/
theorem take_turn (o : Owner) : Turn o .take o.take := by
  rw [take]
  split
  · next j rest serving queue =>
    dsimp only
    split
    · next quit => exact .quits serving queue quit
    · next other => exact .executes serving queue other
  · next serving queue =>
    split
    · next nobody => exact .deserted serving queue nobody
    · exact .rests nofun rfl fun _ => ⟨queue, serving⟩
  · next busy empty =>
    refine .rests nofun rfl fun goes => ?_
    have serving := serving_of_goesOn_take goes
    cases queue : o.queue with
    | nil => exact absurd queue (empty serving)
    | cons j rest => exact absurd queue (busy j rest serving)

/-- An answer to a command reaches its caller, unless a forward is granted to one who is gone. -/
theorem executing_turn {o : Owner} {j : Job} (executing : o.stage = .executing j)
    (r : Except String Grant) : Turn o (.result r) (o.result r) := by
  rw [result, executing]
  dsimp only
  split
  · next address asked port command =>
    obtain ⟨t, c⟩ := j
    cases command
    split
    · next gone => exact .revokes executing gone
    · next there =>
      refine .answers executing ?_
      rw [orphans_result executing, if_neg there]
  · next other => exact .answers executing (orphans_result_eq_nil executing other)

theorem result_turn (o : Owner) (r : Except String Grant) : Turn o (.result r) (o.result r) := by
  cases stage : o.stage with
  | executing j => exact executing_turn stage r
  | revoking address port =>
    rw [result, stage]
    exact .revoked stage
  | _ =>
    rw [result, stage]
    exact .rests nofun (by simp [hears, stage]) fun goes => by simp [goesOn, stage] at goes

theorem apply_turn (o : Owner) (x : Event) : Turn o x (o.apply x) := by
  cases x with
  | request c => exact o.request_turn c
  | enter t =>
    rw [apply, enter]
    split
    · next j found =>
      obtain ⟨before, after, split, erased, rfl⟩ := find_ticket_eq_some found
      rw [erased]
      exact .enters split
    · exact .rests nofun rfl nofun
  | forget t => exact o.forget_turn t
  | share => exact .shares
  | release => exact .releases
  | take => exact o.take_turn
  | result r => exact o.result_turn r
  | lose =>
    rw [apply, lose]
    split
    · next serving => exact .loses serving
    · exact .rests nofun rfl nofun
  | notify =>
    rw [apply, notify]
    split
    · next left => exact .notifies left
    · exact .rests nofun rfl nofun
  | finish =>
    rw [apply, finish]
    split
    · next told => exact .finishes told
    · exact .rests nofun rfl nofun

end BridgeKeeper.Ssh.Owner
