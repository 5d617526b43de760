import BridgeKeeper.Proofs.Bridge.Links

/-!
# Sessions that are being closed

Who closes the session of a bridge has taken the bridge off the list before, or found it gone, and
waits. The bridge is over all that time, and the session belongs to no other one.
-/
namespace BridgeKeeper.Bridge

theorem Session.closes_lasting : Session.Lasting fun x y => x.closes ≤ y.closes where
  refl _ := Nat.le_refl _
  trans := Nat.le_trans
  event y x := by
    cases y <;> exact Nat.le_refl _
  tell _ := Nat.le_succ _

/-- How a task comes to wait for a session to be closed: it did so before, or it has just ended the
bridge of the session, or it opened the bridge and found it gone. -/
theorem TaskChange.closing {w v : World} {t : TaskId} {x : Event} {e : EntryId} {s : SessionId}
    {z : Sequel} (h : TaskChange w v t x (.closing e s z)) :
    w.tasks t = some (.closing e s z) ∨
      (∃ m p, x = .run t m ∧ w.tasks t = some p ∧ Ends w e p (some s) (.closing e s z)) ∨
      ∃ m c k name alive, x = .run t m ∧ w.tasks t = some (.opening c e k) ∧
        w.answers k = some (.session name alive) ∧ w.isListed e = false ∧ s = w.opened ∧
        z = .discarded c := by
  have never {q : Phase} (none : q.closes = none) (same : q = .closing e s z) : False := by
    rw [same] at none
    cases none
  generalize phase : Phase.closing e s z = q at h
  cases h with
  | kept old =>
    subst phase
    exact Or.inl old
  | started => exact (never (Operation.start_closes _) phase.symm).elim
  | passed old passes => exact (never passes.closes phase.symm).elim
  | ended old ends =>
    subst phase
    obtain ⟨rfl, rfl, -⟩ := ends.closing
    exact Or.inr (Or.inl ⟨_, _, rfl, old, ends⟩)
  | @closed m a u r => exact (never (r.after_closes w a) phase.symm).elim
  | @answered m c a k answer r => exact (never (c.after_hasResult r).closes phase.symm).elim
  | discarded old ha gone =>
    cases phase
    exact Or.inr (Or.inr ⟨_, _, _, _, _, rfl, old, ha, gone, rfl, rfl⟩)
  | opening | replied | aborted | watching => cases phase

namespace World

variable {w v : World} {e : EntryId} {s : SessionId} {z : Sequel} {x : Event} {t : TaskId}

/-- What holds of a bridge and a session while a task waits for the session to be closed. -/
structure Closes (w : World) (e : EntryId) (s : SessionId) (z : Sequel) : Prop where
  made : e < w.made
  past : w.status e = .disconnected
  opened : s < w.opened
  told : 0 < (w.sessions s).closes
  only {a : EntryId} : (w.entries a).session = some s → a = e
  noted {c : Caller} : z = .discarded c →
    (w.entries e).failure = some "removed while connecting"

theorem Closes.move (closes : w.Closes e s z) (sound : w.Sound) (h : Move w x v) :
    v.Closes e s z := by
  have grows := h.grows sound closes.made
  constructor
  · exact Nat.lt_of_lt_of_le closes.made (h.made_le sound)
  · have next := grows.status
    rw [show (w.entries e).status = .disconnected from closes.past] at next
    exact Status.eq_of_disconnected_next next
  · exact Nat.lt_of_lt_of_le closes.opened h.opened_le
  · exact Nat.lt_of_lt_of_le closes.told (Session.closes_lasting.move h closes.opened)
  · intro a session
    rcases (h.entry a).given session with old | ⟨new, -⟩
    · exact closes.only old
    · exact absurd new (Nat.ne_of_lt closes.opened)
  · intro c discarded
    exact grows.failure (closes.noted discarded)

/-- When the task goes on, the session is not alive. -/
theorem Closes.dead (closes : w.Closes e s z) (ht : w.tasks t = some (.closing e s z))
    (m : Meanwhile) : (w.apply (.run t m)).isAlive s = false := by
  rw [apply_closing ht]
  show ((w.sessionEvent (.drop s)).sessions s).alive = false
  rw [sessions_sessionEvent, if_pos ⟨rfl, closes.opened⟩]
  rfl

/-- The task goes on waiting until the session is not alive or the task is cancelled. -/
theorem Closes.goes_on (closes : w.Closes e s z) (sound : w.Sound)
    (ht : w.tasks t = some (.closing e s z)) (x : Event) :
    (w.apply x).tasks t = some (.closing e s z) ∨ (w.apply x).isAlive s = false ∨ x = .abort t := by
  by_cases own : x.task = some t
  · cases x with
    | run u m =>
      cases own
      exact Or.inr (Or.inl (closes.dead ht m))
    | abort u =>
      cases own
      exact Or.inr (Or.inr rfl)
    | reply u r =>
      cases own
      exact Or.inl (by simp [World.apply, replied, ht])
    | _ => cases own
  · obtain ⟨q, hq⟩ := (apply_move w x).task_stays ht
    have same := ((apply_move w x).task hq).kept_of_other own (sound.manned.lt_spawned ht)
    obtain rfl := Option.some.inj (ht.symm.trans same)
    exact Or.inl hq

/-- The session of a bridge that was just ended. -/
theorem Sound.closes_ended (sound : w.Sound) (linked : w.Linked) (apart : w.Apart) {p q : Phase}
    (ends : Ends w e p (some s) q) (plain : ∀ c, z ≠ .discarded c) :
    (((w.retire e).tells (some s)).proceed t q []).Closes e s z := by
  have session := ends.session rfl
  have there := (linked.origin session).1
  rw [tells_retire]
  constructor
  · exact sound.tidy.lt_made_of_session session
  · exact sound.tidy.status_retire e
  · exact there
  · show 0 < ((w.tell s).sessions s).closes
    rw [sessions_tell, if_pos rfl]
    exact Nat.succ_pos _
  · intro a given
    have own : ((w.retire e).entries a).session = (w.entries a).session := by rw [retire_entries]
    exact apart a e s (own.symm.trans given) session
  · intro c discarded
    exact absurd discarded (plain c)

/-- The session of a bridge that is off the list when it is delivered. -/
theorem Sound.closes_discarded (sound : w.Sound) (linked : w.Linked) {c : Caller} {k : CallId}
    (ht : w.tasks t = some (.opening c e k)) (m : Meanwhile) (name : String) (alive : Bool) :
    ((((w.received k m name alive).fail e "removed while connecting").tell w.opened).proceed t
      (.closing e w.opened (.discarded c)) []).Closes e w.opened (.discarded c) := by
  rw [received_eq]
  constructor
  · exact sound.manned.made ⟨c, ht⟩
  · simp [status, proceed, tell, fail, setEntry, put]
  · exact Nat.lt_succ_self _
  · simp [proceed, tell, put]
  · intro a session
    by_cases same : a = e
    · exact same
    · have old : (w.entries a).session = some w.opened := by
        simpa [proceed, tell, fail, setEntry, put, same] using session
      exact absurd (linked.origin old).1 (Nat.lt_irrefl _)
  · intro d _
    simp [proceed, tell, fail, setEntry, put]

/-- Every task that waits for a session to be closed does so for a bridge that is over. -/
def Closing (w : World) : Prop :=
  ∀ t e s z, w.tasks t = some (.closing e s z) → w.Closes e s z

end World

/-- The step that ends a bridge leaves the world behind that `Move.ends` says. -/
theorem Ends.apply {w : World} {t : TaskId} {e : EntryId} {p q : Phase} {s : Option SessionId}
    (h : Ends w e p s q) (ht : w.tasks t = some p) (m : Meanwhile) :
    w.apply (.run t m) = ((w.retire e).tells s).proceed t q [] := by
  cases h with
  | replace hi hs dead =>
    rw [World.tells, World.proceed_self (by rw [World.retire_tasks, ht])]
    simp [World.apply, World.step, ht, World.isReady, World.advance, World.ensure, hi, hs, dead]
  | remove hi | clear hi =>
    simp only [World.apply, World.step, ht, World.isReady, if_true, World.advance, hi]
    exact World.remove_eq (fun _ _ => rfl) w t e
  | disconnect hi settled =>
    simp [World.apply, World.step, ht, World.isReady, World.advance, hi, settled,
      World.disconnect_eq]
  | settled settled =>
    simp [World.apply, World.step, ht, World.isReady, World.advance, settled, World.disconnect_eq]
  | dead gone =>
    simp [World.apply, World.step, ht, World.isReady, World.advance, gone, World.finish_eq,
      World.tells]
  | ended past =>
    simp [World.apply, World.step, ht, World.isReady, World.advance, past, World.finish_eq,
      World.tells]

namespace World

variable {w : World}

theorem Closing.apply (closing : w.Closing) (sound : w.Sound) (linked : w.Linked) (apart : w.Apart)
    (x : Event) : (w.apply x).Closing := by
  intro t e s z ht
  have move := apply_move w x
  rcases (move.task ht).closing with old | ⟨m, p, rfl, was, ends⟩ | ⟨m, c, k, name, alive, rfl, was,
    given, gone, rfl, rfl⟩
  · exact (closing t e s z old).move sound move
  · rw [ends.apply was]
    exact sound.closes_ended linked apart ends ends.closing.2.2
  · rw [apply_opening was given, settleOpen_of_not_listed gone]
    exact sound.closes_discarded linked was m name alive

/-- All that every run keeps. -/
structure Regular (w : World) : Prop where
  sound : w.Sound
  linked : w.Linked
  apart : w.Apart
  closing : w.Closing

theorem Regular.apply (regular : w.Regular) (x : Event) : (w.apply x).Regular := by
  obtain ⟨sound, linked, apart, closing⟩ := regular
  have move := apply_move w x
  exact ⟨sound.apply x, move.linked sound linked, move.apart linked apart,
    closing.apply sound linked apart x⟩

theorem Regular.run (regular : w.Regular) (xs : List Event) : (w.run xs).Regular :=
  run_keeps (fun _ x h => h.apply x) w regular xs

/-- The worlds that runs lead to are regular. -/
theorem regular_run (xs : List Event) : (World.run {} xs).Regular := by
  refine Regular.run ⟨sound_empty, linked_run [], apart_run [], ?_⟩ xs
  intro t e s z h
  cases h

end World
end BridgeKeeper.Bridge
