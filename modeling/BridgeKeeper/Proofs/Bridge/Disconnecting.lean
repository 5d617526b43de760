import BridgeKeeper.Proofs.Bridge.Calls
import BridgeKeeper.Proofs.Bridge.Isolation

/-!
# What a disconnect leaves behind

Who disconnects an identity holds the bridge that it found, and may have to wait for it. Meanwhile
the bridge may come to be connected, fail or be removed, and its identity may get another one. In
the end the bridge that was found is over, and no other one has been touched.
-/
namespace BridgeKeeper.Bridge

namespace World

variable {w v : World} {a e : EntryId} {s : SessionId} {t : TaskId} {i : Identity} {p q : Phase}
  {x : Event} {m : Meanwhile}

/-! ## A bridge that is over -/

/-- A bridge is off the list and disconnected, and its session, if it got one, is not alive. -/
structure Over (w : World) (e : EntryId) : Prop where
  unlisted : w.isListed e = false
  status : w.status e = .disconnected
  dead {s : SessionId} : (w.entries e).session = some s → w.isAlive s = false

theorem Over.apply (past : w.Over e) (sound : w.Sound) (linked : w.Linked) (made : e < w.made)
    (x : Event) : (w.apply x).Over e := by
  have move := apply_move w x
  have disconnected := sound.run_disconnected made past.status [x]
  constructor
  · exact ((sound.apply x).tidy.isListed_eq_false_iff e).mpr disconnected
  · exact disconnected
  · intro s session
    rw [(move.entry e).session_of_unlisted made past.unlisted] at session
    exact Session.dead_lasting.move move (linked.origin session).1 (past.dead session)

/-! ## The step that ends a bridge -/

theorem retire_listed (w : World) (e : EntryId) : (w.retire e).listed = (w.unlist e).listed := by
  cases here : w.isListed e with
  | true => rw [retire_of_listed here, unlist_of_listed here]
  | false => rw [retire_of_not_listed here, unlist_of_not_listed here]

/-- A bridge that never had a session is over once it is ended. -/
theorem Tidy.over_retire (tidy : w.Tidy) (bare : (w.entries e).session = none) :
    (w.retire e).Over e := by
  have past := tidy.status_retire e
  constructor
  · exact ((tidy.retire e).isListed_eq_false_iff e).mpr past
  · exact past
  · intro s session
    have own : ((w.retire e).entries e).session = (w.entries e).session := by rw [retire_entries]
    rw [own, bare] at session
    cases session

/-- A bridge whose session was being closed is over when that is done. -/
theorem Sound.over_closed (sound : w.Sound) {z : Sequel} (closes : w.Closes e s z)
    (session : (w.entries e).session = some s) : (w.sessionEvent (.drop s)).Over e := by
  have same := sessionEvent_eq w (.drop s)
  constructor
  · rw [same]
    exact (sound.tidy.isListed_eq_false_iff e).mpr closes.past
  · rw [same]
    exact closes.past
  · intro u given
    rw [same] at given
    obtain rfl : s = u := Option.some.inj (session.symm.trans given)
    rw [isAlive, sessions_sessionEvent, if_pos ⟨rfl, closes.opened⟩]
    rfl

/-- Between two worlds all bridges but one stay as they are, and on the list if they were there, and
so do their sessions. -/
structure LeavesOthers (w v : World) (e : EntryId) : Prop where
  listed {i : Identity} {a : EntryId} : a ≠ e → (v.listed i = some a ↔ w.listed i = some a)
  entries {a : EntryId} : a ≠ e → v.entries a = w.entries a
  sessions {a : EntryId} {s : SessionId} : a ≠ e → (w.entries a).session = some s →
    v.sessions s = w.sessions s

theorem LeavesOthers.refl (w : World) (e : EntryId) : w.LeavesOthers w e :=
  ⟨fun _ => Iff.rfl, fun _ => rfl, fun _ _ => rfl⟩

theorem LeavesOthers.proceed (h : w.LeavesOthers v e) (t : TaskId) (q : Phase)
    (rs : List Directory.Report) : w.LeavesOthers (v.proceed t q rs) e :=
  ⟨h.listed, h.entries, h.sessions⟩

/-- Who ends a bridge and tells its session to close touches no other bridge. -/
theorem Tidy.leavesOthers_ended (tidy : w.Tidy) (apart : w.Apart) (e : EntryId) :
    w.LeavesOthers ((w.retire e).tells (w.entries e).session) e := by
  rw [tells_retire]
  constructor
  · intro i a other
    show (w.retire e).listed i = some a ↔ w.listed i = some a
    rw [retire_listed, tidy.unlist_listed_iff]
    exact and_iff_left other
  · intro a other
    have same : (w.retire e).status a = w.status a := by
      rw [retire_status, if_neg fun h => other h.2]
    show (w.retire e).entries a = w.entries a
    rw [retire_entries, same, World.status]
  · intro a s other session
    cases told : (w.entries e).session with
    | none => rfl
    | some u =>
      have different : s ≠ u := by
        rintro rfl
        exact other (apart a e s session told)
      exact put_other _ _ different

/-- Nor does the end of the close. -/
theorem Closes.leavesOthers {z : Sequel} (closes : w.Closes e s z) :
    w.LeavesOthers (w.sessionEvent (.drop s)) e := by
  have same := sessionEvent_eq w (.drop s)
  constructor
  · intro i a _
    rw [same]
  · intro a _
    rw [same]
  · intro a u other session
    have different : s ≠ u := by
      rintro rfl
      exact other (closes.only session)
    rw [sessions_sessionEvent, if_neg fun h => different h.1]

/-! ## A call that disconnects -/

/-- How a task stands that looked up a bridge to disconnect it. -/
inductive Holds (w : World) (e : EntryId) : Phase → Prop
  | waiting : Holds w e (.disconnecting e)
  | closing {s : SessionId} : (w.entries e).session = some s → Holds w e (.closing e s .disconnected)
  | aborted : Holds w e .aborted
  | returned : w.Over e → Holds w e (.done (.disconnected (.ok ())))

theorem apply_disconnecting (ht : w.tasks t = some (.disconnecting e))
    (settled : w.status e ≠ .connecting) : w.apply (.run t m) = w.disconnect t e := by
  simp [World.apply, step, ht, isReady, advance, settled]

theorem apply_disconnect (ht : w.tasks t = some (.disconnect i)) (hi : w.listed i = some e) :
    w.apply (.run t m) =
      if w.status e = .connecting then w.setTask t (.disconnecting e) else w.disconnect t e := by
  simp [World.apply, step, ht, isReady, advance, hi]

/-- The step that ends the bridge. -/
theorem Tidy.holds_disconnect (tidy : w.Tidy) (t : TaskId) (e : EntryId)
    (hq : (w.disconnect t e).tasks t = some q) : (w.disconnect t e).Holds e q := by
  rw [disconnect_eq] at hq ⊢
  simp only [proceed, put_same, Option.some.injEq] at hq
  rw [← hq]
  cases session : (w.entries e).session with
  | none =>
    have past := tidy.over_retire session
    exact .returned ⟨past.unlisted, past.status, past.dead⟩
  | some s =>
    refine .closing ?_
    show ((w.retire e).entries e).session = some s
    rw [retire_entries]
    exact session

/-- The look-up that finds a bridge. -/
theorem Tidy.holds_found (tidy : w.Tidy) (ht : w.tasks t = some (.disconnect i))
    (hi : w.listed i = some e) (hq : (w.apply (.run t m)).tasks t = some q) :
    (w.apply (.run t m)).Holds e q := by
  rw [apply_disconnect ht hi] at hq ⊢
  split at hq
  · next connecting =>
    rw [if_pos connecting]
    simp only [setTask, put_same, Option.some.injEq] at hq
    rw [← hq]
    exact .waiting
  · next settled =>
    rw [if_neg settled]
    exact tidy.holds_disconnect t e hq

/-- What happens afterwards. -/
theorem Holds.apply (before : ∀ p, w.tasks t = some p → w.Holds e p) (there : t < w.spawned)
    (made : e < w.made) (regular : w.Regular) (hq : (w.apply x).tasks t = some q) :
    (w.apply x).Holds e q := by
  obtain ⟨sound, linked, apart, closing⟩ := regular
  have move := apply_move w x
  cases move.task hq with
  | kept old =>
    cases before q old with
    | waiting => exact .waiting
    | closing session => exact .closing (move.session_kept sound session)
    | aborted => exact .aborted
    | returned past => exact .returned (past.apply sound linked made x)
  | started new | watching new => exact absurd new (Nat.ne_of_lt there)
  | aborted => exact .aborted
  | passed old passes =>
    have holds := before _ old
    cases holds <;> cases passes
  | @ended m a p u q old ends =>
    cases before p old with
    | waiting =>
      cases ends with
      | settled settled =>
        rw [apply_disconnecting old settled] at hq ⊢
        exact sound.tidy.holds_disconnect t e hq
    | closing | aborted | returned => cases ends
  | @closed m a s z old =>
    cases before _ old with
    | closing session =>
      have past := sound.over_closed (closing t e s _ old) session
      rw [apply_closing old]
      exact .returned ⟨past.unlisted, past.status, past.dead⟩
  | opening old | answered old | discarded old | replied old => cases before _ old

/-- From the look-up on, who disconnects has no other end than that the bridge is over. -/
theorem Holds.run (holds : ∀ p, w.tasks t = some p → w.Holds e p) (there : t < w.spawned)
    (made : e < w.made) (regular : w.Regular) (ys : List Event) :
    ∀ q, (w.run ys).tasks t = some q → (w.run ys).Holds e q := by
  induction ys generalizing w with
  | nil => exact holds
  | cons y ys ih =>
    have move := apply_move w y
    exact ih (fun q hq => Holds.apply holds there made regular hq)
      (Nat.lt_of_lt_of_le there move.spawned_le)
      (Nat.lt_of_lt_of_le made (move.made_le regular.sound)) (regular.apply y)

/-- Whatever the task does, it touches no bridge but the one that it found. -/
theorem leavesOthers_apply (ht : w.tasks t = some p)
    (about : (∃ i, p = .disconnect i ∧ w.listed i = some e) ∨ w.Holds e p) (own : x.task = some t)
    (regular : w.Regular) : w.LeavesOthers (w.apply x) e := by
  obtain ⟨sound, -, apart, closing⟩ := regular
  have ended := sound.tidy.leavesOthers_ended apart e
  have move := apply_move w x
  generalize w.apply x = v at move
  cases move with
  | rest => exact .refl w e
  | start | answer | listen | session => cases own
  | reply | abort | pass => exact (LeavesOthers.refl w e).proceed _ _ _
  | @ends u m a q s r hu ends =>
    obtain rfl := phase_of_own ht hu own
    rcases about with ⟨i, rfl, hi⟩ | holds
    · cases ends with
      | disconnect hi' =>
        cases hi.symm.trans hi'
        exact ended.proceed _ _ _
    · cases holds with
      | waiting =>
        cases ends with
        | settled => exact ended.proceed _ _ _
      | closing | aborted | returned => cases ends
  | @closed u m a s z hu =>
    obtain rfl := phase_of_own ht hu own
    rcases about with ⟨i, phase, -⟩ | holds
    · cases phase
    · cases holds with
      | closing => exact (closing u e s _ hu).leavesOthers.proceed _ _ _
  | cancel hu | unlist hu | place hu | fail hu | commit hu | discard hu =>
    obtain rfl := phase_of_own ht hu own
    rcases about with ⟨i, phase, -⟩ | holds
    · cases phase
    · cases holds

/-- In every run, a call that disconnects an identity and finds no bridge under it is told so and
changes nothing but its own state. If it finds a bridge, connecting or connected, it can only be told
that all went well; when it returns, and ever after, that bridge is off the list and disconnected, and
its session is not alive. Whatever else happened in between, no step of the call touches another
bridge or the session of one, even if that is listed under the same identity. -/
theorem disconnect_ends_found (xs : List Event) {t : TaskId} {i : Identity}
    (ht : (World.run {} xs).tasks t = some (.disconnect i)) (m : Meanwhile) :
    ((World.run {} xs).listed i = none → World.run {} (xs ++ [.run t m]) =
      (World.run {} xs).finish t (.disconnected (.error (.notFound i)))) ∧
    ∀ e, (World.run {} xs).listed i = some e → ∀ ys,
      (∀ r, (World.run {} (xs ++ .run t m :: ys)).tasks t = some (.done r) →
        r = .disconnected (.ok ()) ∧ (World.run {} (xs ++ .run t m :: ys)).Over e) ∧
      ∀ us x vs, .run t m :: ys = us ++ x :: vs → x.task = some t →
        (World.run {} (xs ++ us)).LeavesOthers (World.run {} (xs ++ us ++ [x])) e := by
  have sound := sound_run xs
  have now (x : Event) : World.run {} (xs ++ [x]) = (World.run {} xs).apply x :=
    run_append {} xs [x]
  constructor
  · intro free
    rw [now]
    simp [World.apply, step, ht, isReady, advance, free]
  · intro e here ys
    have made := sound.tidy.lt_made (sound.tidy.status_of_listed here)
    have move := apply_move (World.run {} xs) (.run t m)
    have holds (zs : List Event) : ∀ q, (World.run {} (xs ++ .run t m :: zs)).tasks t = some q →
        (World.run {} (xs ++ .run t m :: zs)).Holds e q := by
      rw [run_append]
      exact Holds.run (fun q hq => sound.tidy.holds_found ht here hq)
        (Nat.lt_of_lt_of_le (sound.manned.lt_spawned ht) move.spawned_le)
        (Nat.lt_of_lt_of_le made (move.made_le sound)) ((regular_run xs).apply _) zs
    constructor
    · intro r returned
      cases holds ys _ returned with
      | returned past => exact ⟨rfl, past⟩
    · intro us x vs split own
      rw [run_append _ (xs ++ us)]
      -- The first step is the look-up itself; before any later one the call holds the bridge.
      cases us with
      | nil =>
        rw [List.append_nil]
        exact leavesOthers_apply ht (Or.inl ⟨i, rfl, here⟩) own (regular_run xs)
      | cons u us =>
        obtain ⟨rfl, rfl⟩ := List.cons.inj split
        obtain ⟨p, there⟩ := task_stays_run ht (.run t m :: us)
        rw [← run_append] at there
        exact leavesOthers_apply there (Or.inr (holds us p there)) own (regular_run _)

/-- A disconnect finds a bridge that is connecting and waits for it. -/
def waiting : List Event :=
  [.start (.ensureOpen ⟨"a"⟩ (some sampleRequest)), .run 0 {}, .start (.disconnect ⟨"a"⟩)]

/-- The bridge connects and is removed by another task, and while that and the disconnect wait for its
session to be closed, its identity gets another one, which connects too. -/
def supplanted : List Event :=
  [.answer 0 (.session "s" true), .run 0 {}, .start (.remove ⟨"a"⟩), .run 3 {},
    .start (.ensureOpen ⟨"a"⟩ (some sampleRequest)), .run 4 {}, .run 1 {},
    .answer 1 (.session "t" true), .run 4 {}]

theorem disconnect_ends_found_supplanted :
    World.run {} ([.start (.disconnect ⟨"a"⟩)] ++ [.run 0 {}]) =
        (World.run {} [.start (.disconnect ⟨"a"⟩)]).finish 0
          (.disconnected (.error (.notFound ⟨"a"⟩))) ∧
      (World.run {} (waiting ++ .run 1 {} :: (supplanted ++ [.run 1 {}]))).Over 0 ∧
      (World.run {} (waiting ++ .run 1 {} :: supplanted ++ [.run 1 {}])).listed ⟨"a"⟩ = some 1 ∧
      (World.run {} (waiting ++ .run 1 {} :: supplanted ++ [.run 1 {}])).isAlive 1 := by
  have alone := disconnect_ends_found [.start (.disconnect ⟨"a"⟩)] (t := 0) (i := ⟨"a"⟩) rfl {}
  have found := disconnect_ends_found waiting (t := 1) (i := ⟨"a"⟩) rfl {}
  obtain ⟨ended, spared⟩ := found.2 0 (by decide) (supplanted ++ [.run 1 {}])
  have others := spared (.run 1 {} :: supplanted) (.run 1 {}) [] (by rfl) rfl
  refine ⟨alone.1 rfl, (ended _ rfl).2, (others.listed (by decide)).mpr (by decide), ?_⟩
  rw [isAlive, others.sessions (a := 1) (by decide) (by decide)]
  decide

end World
end BridgeKeeper.Bridge
