import BridgeKeeper.Bridge.Step

/-!
# What the operations do to the tables

Each operation on a bridge or a session as one change of the tables, for a bridge that is listed and
for one that is not, and what it leaves alone.
-/
namespace BridgeKeeper.Bridge.World

variable {w : World} {e : EntryId} {s : SessionId}

theorem isListed_iff : w.isListed e ↔ w.listed (w.entries e).identity = some e := by
  simp [isListed]

theorem isListed_eq_false_iff :
    w.isListed e = false ↔ w.listed (w.entries e).identity ≠ some e := by
  simp [isListed]

theorem isConnected_iff : w.isConnected e ↔
    w.status e = .connected ∧ ∃ s, (w.entries e).session = some s ∧ w.isAlive s := by
  simp [isConnected, Option.any_eq_true]

/-! ## Ending a bridge -/

theorem unlist_of_listed (h : w.isListed e) :
    w.unlist e = { w with listed := put w.listed (w.entries e).identity none } := by
  simp [unlist, h]

theorem unlist_of_not_listed (h : w.isListed e = false) : w.unlist e = w := by
  simp [unlist, h]

/-- Taking a bridge off the list changes the list. -/
theorem unlist_eq (w : World) (e : EntryId) :
    w.unlist e = { w with listed := (w.unlist e).listed } := by
  rw [unlist]
  split <;> rfl

theorem retire_of_listed (h : w.isListed e) :
    w.retire e = { w with
      listed := put w.listed (w.entries e).identity none
      entries := put w.entries e { w.entries e with status := .disconnected }
      notices := w.notices ++
        (List.range w.listeners).map fun l => ⟨l, e, .disconnected, false⟩ } := by
  simp [retire, h, unlist, setEntry, announce, status, put]

theorem retire_of_not_listed (h : w.isListed e = false) : w.retire e = w := by
  simp [retire, h]

/-- Ending a bridge changes three tables. -/
theorem retire_eq (w : World) (e : EntryId) :
    w.retire e = { w with
      listed := (w.retire e).listed
      entries := (w.retire e).entries
      notices := (w.retire e).notices } := by
  cases h : w.isListed e with
  | true => rw [retire_of_listed h]
  | false => rw [retire_of_not_listed h]

theorem retire_tasks (w : World) (e : EntryId) : (w.retire e).tasks = w.tasks := by
  rw [retire_eq]

theorem retire_status (w : World) (e a : EntryId) :
    (w.retire e).status a = if w.isListed e ∧ a = e then .disconnected else w.status a := by
  cases h : w.isListed e with
  | true =>
    rw [retire_of_listed h]
    by_cases ha : a = e
    · simp [status, put, ha]
    · simp [status, put, ha]
  | false =>
    rw [retire_of_not_listed h]
    simp

theorem retire_entries (w : World) (e a : EntryId) :
    (w.retire e).entries a = { w.entries a with status := (w.retire e).status a } := by
  cases h : w.isListed e with
  | true =>
    rw [retire_of_listed h]
    by_cases ha : a = e
    · simp [status, put, ha]
    · simp [status, put, ha]
  | false => rw [retire_of_not_listed h, status]

/-- Taking a bridge back changes two tables. -/
theorem rollBack_eq (w : World) (e : EntryId) (reason : String) :
    w.rollBack e reason = { w with
      listed := (w.unlist e).listed
      entries := put w.entries e
        { w.entries e with failure := some reason, status := .disconnected } } := by
  cases h : w.isListed e with
  | true => simp [rollBack, fail, setEntry, unlist_of_listed h]
  | false => simp [rollBack, fail, setEntry, unlist_of_not_listed h]

/-! ## Sessions -/

theorem opened_sessionEvent (w : World) (x : SessionEvent) :
    (w.sessionEvent x).opened = w.opened := by
  rw [sessionEvent]
  split <;> rfl

theorem sessions_sessionEvent (w : World) (x : SessionEvent) (s : SessionId) :
    (w.sessionEvent x).sessions s =
      if x.session = s ∧ s < w.opened then x.apply (w.sessions s) else w.sessions s := by
  rw [sessionEvent]
  by_cases hs : s = x.session
  · subst s
    by_cases there : x.session < w.opened
    · simp [there, put]
    · simp [there]
  · split
    · simp [put, hs, Ne.symm hs]
    · simp [Ne.symm hs]

/-- The operations on a session change the table of sessions and nothing else. -/
theorem sessionEvents_eq (w : World) (xs : List SessionEvent) :
    w.sessionEvents xs = { w with sessions := (w.sessionEvents xs).sessions } := by
  induction xs generalizing w with
  | nil => rfl
  | cons x xs ih =>
    have first : w.sessionEvent x = { w with sessions := (w.sessionEvent x).sessions } := by
      rw [sessionEvent]
      split <;> rfl
    have rest := ih (w.sessionEvent x)
    simp only [sessionEvents, List.foldl_cons] at rest ⊢
    rw [rest, first]

theorem sessionEvent_eq (w : World) (x : SessionEvent) :
    w.sessionEvent x = { w with sessions := (w.sessionEvent x).sessions } :=
  sessionEvents_eq w [x]

def tells (w : World) : Option SessionId → World
  | some s => w.tell s
  | none => w

theorem tells_eq (w : World) (s : Option SessionId) :
    w.tells s = { w with sessions := (w.tells s).sessions } := by
  cases s <;> rfl

/-- Ending a bridge and telling a session to close change four tables. -/
theorem tells_retire (w : World) (e : EntryId) (s : Option SessionId) :
    (w.retire e).tells s = { w with
      listed := (w.retire e).listed
      entries := (w.retire e).entries
      notices := (w.retire e).notices
      sessions := (w.tells s).sessions } := by
  rw [retire_eq]
  cases s <;> rfl

theorem sessions_tell (w : World) (s u : SessionId) : (w.tell s).sessions u =
    if u = s then { w.sessions u with closes := (w.sessions u).closes + 1 } else w.sessions u := by
  by_cases same : u = s
  · subst u
    simp [tell, put]
  · simp [tell, put, same]

def liveSession (w : World) (e : EntryId) : Option SessionId :=
  (w.entries e).session.filter w.isAlive

theorem liveSession_eq_some_iff :
    w.liveSession e = some s ↔ (w.entries e).session = some s ∧ w.isAlive s = true :=
  Option.filter_eq_some_iff

end BridgeKeeper.Bridge.World
