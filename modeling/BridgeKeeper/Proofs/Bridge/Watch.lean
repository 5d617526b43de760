import BridgeKeeper.Proofs.Bridge.Rest
import BridgeKeeper.Proofs.Bridge.Verdict

/-!
# No end of a session is missed

A connected bridge has a watcher, which subscribed to the session before the bridge was shown as
connected and looks whether the session is alive before it waits. A session that ends before that
look is found dead by it; the notification of one that ends later is still to be heard. So a bridge
that is connected when nothing moves any more has a session that is alive, provided that sessions
announce their end.
-/
namespace BridgeKeeper.Bridge

/-- A bridge is connected because it was so before, or its opener has just been given a session. -/
theorem EntryChange.connected_cases {w v : World} {x : Event} {e : EntryId} {b : Entry}
    (h : EntryChange w e x v b) (status : b.status = .connected) :
    b = w.entries e ∨ ∃ t m c k name alive, x = .run t m ∧ w.tasks t = some (.opening c e k) ∧
      w.answers k = some (.session name alive) ∧ w.isListed e := by
  cases h with
  | kept => exact Or.inl rfl
  | @connected t m c k name alive v ht ha here =>
    exact Or.inr ⟨t, m, c, k, name, alive, rfl, ht, ha, here⟩
  | placed | ended | cancelled | failed | discarded => cases status

/-- A watcher goes on watching until its bridge is off the list. -/
theorem Move.keeps_watching {w v : World} {x : Event} {t : TaskId} {p : Phase} {e : EntryId}
    {s : SessionId} (h : Move w x v) (sound : w.Sound) (ht : w.tasks t = some p)
    (watched : p.watched = some (e, s)) :
    (∃ q, v.tasks t = some q ∧ q.watched = some (e, s)) ∨ v.status e = .disconnected := by
  have started := Nat.ne_of_lt (sound.manned.lt_spawned ht)
  have other {u : TaskId} {z : Phase} (hu : w.tasks u = some z) (none : z.watched = none) :
      t ≠ u := by
    rintro rfl
    rw [Option.some.inj (ht.symm.trans hu), none] at watched
    cases watched
  have stays (same : v.tasks t = w.tasks t) :
      (∃ q, v.tasks t = some q ∧ q.watched = some (e, s)) ∨ v.status e = .disconnected :=
    Or.inl ⟨p, same.trans ht, watched⟩
  cases h with
  | rest | answer | listen | session => exact stays rfl
  | start => exact stays (put_other _ _ started)
  | reply hu => exact stays (put_other _ _ (other hu rfl))
  | @abort u z hu stops =>
    refine stays (put_other _ _ (other hu ?_))
    cases z <;> first | rfl | exact stops.elim
  | cancel hu | fail hu =>
    rw [World.rollBack_eq] at stays ⊢
    exact stays (put_other _ _ (other hu rfl))
  | @pass u m z q rs hu h =>
    by_cases here : t = u
    · subst u
      obtain rfl := Option.some.inj (ht.symm.trans hu)
      have goes : q.watched = some (e, s) := by
        cases h with
        | watch => exact watched
        | _ => cases watched
      exact Or.inl ⟨q, by simp [World.proceed, put_same], goes⟩
    · exact stays (put_other _ _ here)
  | closed hu =>
    rw [World.sessionEvent_eq] at stays ⊢
    exact stays (put_other _ _ (other hu rfl))
  | @ends u m a z told q hu h =>
    rw [World.tells_retire] at stays ⊢
    by_cases here : t = u
    · subst u
      obtain rfl := Option.some.inj (ht.symm.trans hu)
      have own : a = e := by
        cases h with
        | dead | ended => exact (Prod.mk.inj (Option.some.inj watched)).1
        | _ => cases watched
      subst a
      exact Or.inr (sound.tidy.status_retire e)
    · exact stays (put_other _ _ here)
  | unlist hu => exact stays (by rw [World.unlist_eq])
  | place hu => exact stays (put_other _ _ (other hu rfl))
  | commit hu =>
    rw [World.received_eq] at stays ⊢
    exact stays ((put_other _ _ (other hu rfl)).trans (put_other _ _ started))
  | discard hu =>
    rw [World.received_eq] at stays ⊢
    exact stays (put_other _ _ (other hu rfl))

namespace World

variable {w v : World} {t : TaskId} {p : Phase} {e : EntryId} {s : SessionId} {x : Event}

/-- Every connected bridge has a watcher, and no watcher has heard more than was sent. -/
structure Attended (w : World) : Prop where
  watcher {e : EntryId} {s : SessionId} : w.status e = .connected →
    (w.entries e).session = some s → ∃ t p, w.tasks t = some p ∧ p.watched = some (e, s)
  heard {t : TaskId} {p : Phase} {e : EntryId} {s : SessionId} : w.tasks t = some p →
    p.watched = some (e, s) → p.heard ≤ (w.sessions s).notices

theorem Attended.apply (attended : w.Attended) (sound : w.Sound) (linked : w.Linked) (x : Event) :
    (w.apply x).Attended := by
  have move := apply_move w x
  constructor
  · intro e s connected session
    rcases (move.entry e).connected_cases connected with
      same | ⟨t, m, c, k, name, alive, rfl, ht, ha, here⟩
    · rw [status, same] at connected
      rw [same] at session
      obtain ⟨t, p, ht, watched⟩ := attended.watcher connected session
      rcases move.keeps_watching sound ht watched with ⟨q, hq, still⟩ | past
      · exact ⟨t, q, hq, still⟩
      · rw [status, same, connected] at past
        cases past
    · -- The opener starts the watcher in the step that shows the bridge as connected.
      have other : w.spawned ≠ t := Nat.ne_of_gt (sound.manned.lt_spawned ht)
      rw [apply_opening ht ha, settleOpen_of_listed here, received_eq] at session ⊢
      have new : w.opened = s := by
        simpa [proceed, spawn, attach, setEntry, put_same] using session
      refine ⟨w.spawned, .watch e w.opened (w.heardBy k m name alive), ?_, by rw [new]; rfl⟩
      exact (put_other _ _ other).trans (put_same _ _ _)
  · intro t q e s ht watched
    have kept {p : Phase} (old : w.tasks t = some p) (same : p.watched = some (e, s)) :
        p.heard ≤ ((w.apply x).sessions s).notices := by
      have there := (linked.origin (linked.watcher old same)).1
      exact Nat.le_trans (attended.heard old same) (move.ages there).notices
    rcases (move.task ht).watches watched with old | ⟨n, old, rfl, -⟩ | ⟨n, rfl, -, le⟩
    · exact kept old watched
    · exact kept (p := .watch e s n) old rfl
    · exact le

/-! ## Sessions that announce their end -/

/-- During a run, a session that stops being alive announces it: from then to the end of the run it
sends its notification, or the channel of its notification is closed by then. -/
def Announces (w : World) : List Event → Prop
  | [] => True
  | x :: xs =>
    (∀ s < w.opened, w.isAlive s → (w.apply x).isAlive s = false →
      (w.run (x :: xs)).hasEnded s (w.sessions s).notices) ∧ (w.apply x).Announces xs

instance Announces.decidable : (w : World) → (xs : List Event) → Decidable (w.Announces xs)
  | _, [] => isTrue trivial
  | w, x :: xs =>
    have := Announces.decidable (w.apply x) xs
    inferInstanceAs (Decidable (_ ∧ _))

/-- The watchers that wait have a session that is alive, or one whose end is heard of in a world to
come. -/
def Heeds (w final : World) : Prop :=
  ∀ t e s n, w.tasks t = some (.watching e s n) → w.isAlive s ∨ final.hasEnded s n

/-- Who heard less has no less to hear. -/
theorem hasEnded_mono {n n' : Nat} (le : n ≤ n') (h : w.hasEnded s n') : w.hasEnded s n := by
  simp only [hasEnded, Bool.or_eq_true, decide_eq_true_eq] at h ⊢
  exact h.imp_left (Nat.lt_of_le_of_lt le)

theorem Heeds.apply {final : World} (heeds : w.Heeds final) (attended : w.Attended)
    (linked : w.Linked) (announced : ∀ s < w.opened, w.isAlive s → (w.apply x).isAlive s = false →
      final.hasEnded s (w.sessions s).notices) : (w.apply x).Heeds final := by
  intro t e s n ht
  have ages {p : Phase} (old : w.tasks t = some p) (watched : p.watched = some (e, s))
      (alive : w.isAlive s) : (w.apply x).isAlive s ∨ final.hasEnded s p.heard := by
    cases after : (w.apply x).isAlive s with
    | true => exact Or.inl rfl
    | false =>
      have there := (linked.origin (linked.watcher old watched)).1
      exact Or.inr (hasEnded_mono (attended.heard old watched) (announced s there alive after))
  rcases ((apply_move w x).task ht).watches rfl with old | ⟨m, old, same, alive⟩ | ⟨m, new, -⟩
  · rcases heeds t e s n old with alive | ended
    · exact ages old rfl alive
    · exact Or.inr ended
  · cases same
    exact ages old rfl alive
  · cases new

/-- The watchers heed the world that a run leads to, if the sessions announce their ends. -/
theorem Attended.run {xs : List Event} (attended : w.Attended) (sound : w.Sound) (linked : w.Linked)
    (heeds : w.Heeds (w.run xs)) (announces : w.Announces xs) :
    (w.run xs).Attended ∧ (w.run xs).Sound ∧ (w.run xs).Heeds (w.run xs) := by
  induction xs generalizing w with
  | nil => exact ⟨attended, sound, heeds⟩
  | cons x xs ih =>
    exact ih (attended.apply sound linked x) (sound.apply x)
      ((apply_move w x).linked sound linked) (heeds.apply attended linked announces.1) announces.2

theorem attended_empty : World.Attended {} := by
  constructor
  · intro e s h
    cases h
  · intro t p e s h
    cases h

/-- In a world at rest, a watcher that heeds it waits for a session that is alive. -/
theorem Attended.isConnected (attended : w.Attended) (sound : w.Sound) (heeds : w.Heeds w)
    (rest : w.AtRest) (connected : w.status e = .connected) : w.isConnected e := by
  have listed := (sound.tidy.listed_iff e).mpr (by simp [connected])
  obtain ⟨-, ⟨connecting, -⟩ | ⟨-, s, session⟩⟩ := sound.of_listed listed
  · rw [connected] at connecting
    cases connecting
  obtain ⟨t, p, ht, watched⟩ := attended.watcher connected session
  have stuck := rest t
  rw [canMove_eq ht] at stuck
  cases p with
  | watch => cases stuck
  | watching a u n =>
    cases watched
    rcases heeds t e s n ht with alive | ended
    · simp [World.isConnected, connected, session, alive]
    · exact absurd (stuck.symm.trans ended) Bool.false_ne_true
  | _ => cases watched

/-- In a world at rest that a run leads to in which the sessions announce their ends, every bridge
that is connected has a session that is alive. A session that is dead on delivery, or dies in the
step that takes it, need not announce anything. -/
theorem connected_alive_at_rest {xs : List Event} (announces : World.Announces {} xs)
    (rest : (World.run {} xs).AtRest) {e : EntryId}
    (connected : (World.run {} xs).status e = .connected) :
    ∃ s, ((World.run {} xs).entries e).session = some s ∧ (World.run {} xs).isAlive s := by
  have heeds : World.Heeds {} (World.run {} xs) := by
    intro t e s n h
    cases h
  obtain ⟨attended, sound, heeds⟩ :=
    attended_empty.run sound_empty (linked_run []) heeds announces
  have alive := attended.isConnected sound heeds rest connected
  simpa [World.isConnected, connected, Option.any_eq_true] using alive

/-- The session of the first bridge dies once its watcher waits, and announces that late; a session
that dies silently in the step that takes it is replaced; the last one lives. -/
def passing : List Event :=
  [.start (.ensureOpen ⟨"a"⟩ (some sampleRequest)), .run 0 {}, .answer 0 (.session "s" true),
    .run 0 {}, .run 1 {}, .session (.die 0),
    .start (.ensureOpen ⟨"b"⟩ (some sampleRequest)), .run 2 {}, .answer 1 (.session "t" true),
    .run 2 { subscribed := [.die 1] }, .run 3 {},
    .start (.ensureOpen ⟨"b"⟩ (some sampleRequest)), .run 4 {}, .answer 2 (.session "u" true),
    .run 4 {}, .session (.signal 0), .run 1 {}, .run 5 {}]

theorem connected_alive_at_rest_passing :
    World.Announces {} passing ∧ (World.run {} passing).AtRest ∧
      (World.run {} passing).status 2 = .connected ∧
      ∃ s, ((World.run {} passing).entries 2).session = some s ∧
        (World.run {} passing).isAlive s := by
  have announces : World.Announces {} passing := by decide
  have rest : (World.run {} passing).AtRest := (sound_run passing).manned.atRest (by decide)
  have connected : (World.run {} passing).status 2 = .connected := by decide
  exact ⟨announces, rest, connected, connected_alive_at_rest announces rest connected⟩

end World
end BridgeKeeper.Bridge
