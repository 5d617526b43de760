import BridgeKeeper.Proofs.Bridge.Lifecycle

/-!
# Which session belongs to which bridge

A session is linked to the bridge that it was opened for, and whoever watches a session watches it
for that bridge. The links stay as they are whatever happens to the sessions, and no session belongs
to two bridges.
-/
namespace BridgeKeeper.Bridge

namespace World

def openedFor (w : World) (s : SessionId) : Option Identity :=
  w.calls[(w.sessions s).call]?.map (·.identity)

end World

namespace Session.Lasting

variable {R : Session → Session → Prop}

theorem tells (lasting : Session.Lasting R) (w : World) (u : Option SessionId) (s : SessionId) :
    R (w.sessions s) ((w.tells u).sessions s) := by
  cases u with
  | some u => exact lasting.put (lasting.tell _) s
  | none => exact lasting.refl _

/-- What an event does to a session that is there. -/
theorem move (lasting : Session.Lasting R) {w v : World} {x : Event} {s : SessionId}
    (h : Move w x v) (there : s < w.opened) : R (w.sessions s) (v.sessions s) := by
  have received {k : CallId} {m : Meanwhile} {name : String} {alive : Bool} :
      R (w.sessions s) ((w.received k m name alive).sessions s) := by
    have aged := lasting.received w k m name alive s
    rwa [World.sessions_deliver (Nat.ne_of_lt there)] at aged
  cases h with
  | rest | start | answer | listen | reply | abort | pass | place => exact lasting.refl _
  | @session x => exact lasting.put (lasting.event x _) s
  | cancel | fail => rw [World.rollBack_eq]; exact lasting.refl _
  | ends => rw [World.tells_retire]; exact lasting.tells w _ s
  | @closed t m e u => exact lasting.sessionEvents w [.drop u] s
  | unlist => rw [World.unlist_eq]; exact lasting.refl _
  | commit => exact received
  | discard => exact lasting.trans received (lasting.put (lasting.tell _) s)

end Session.Lasting

namespace Move

variable {w v : World} {x : Event} {s : SessionId}

theorem opened_le (h : Move w x v) : w.opened ≤ v.opened := by
  cases h with
  | rest | start | answer | listen | session | reply | abort | pass | place => exact Nat.le_refl _
  | cancel | fail => rw [World.rollBack_eq]; exact Nat.le_refl _
  | ends => rw [World.tells_retire]; exact Nat.le_refl _
  | closed => rw [World.sessionEvent_eq]; exact Nat.le_refl _
  | unlist => exact Nat.le_of_eq (by rw [World.unlist_eq])
  | commit | discard => rw [World.received_eq]; exact Nat.le_succ _

theorem calls (h : Move w x v) : ∃ cs, v.calls = w.calls ++ cs := by
  have same (equal : v.calls = w.calls) : ∃ cs, v.calls = w.calls ++ cs := ⟨[], by simp [equal]⟩
  cases h with
  | rest | start | answer | listen | session | reply | abort | pass => exact same rfl
  | cancel | fail => exact same (by rw [World.rollBack_eq]; rfl)
  | ends => exact same (by rw [World.tells_retire]; rfl)
  | closed => exact same (by rw [World.sessionEvent_eq]; rfl)
  | unlist => exact same (by rw [World.unlist_eq])
  | @place t m c i r => exact ⟨[⟨i, r.credentials, r.rule⟩], rfl⟩
  | commit | discard => exact same (by rw [World.received_eq]; rfl)

theorem ages (h : Move w x v) (there : s < w.opened) : (w.sessions s).Ages (v.sessions s) :=
  Session.ages_lasting.move h there

/-- The identity for which a session was opened does not change. -/
theorem openedFor (h : Move w x v) (there : s < w.opened) {i : Identity}
    (opened : w.openedFor s = some i) : v.openedFor s = some i := by
  obtain ⟨cs, calls⟩ := h.calls
  obtain ⟨c, called, -⟩ := Option.map_eq_some_iff.mp opened
  have inside := (List.getElem?_eq_some_iff.mp called).1
  rw [World.openedFor, (h.ages there).call, calls, List.getElem?_append_left inside]
  exact opened

end Move

/-- A bridge has the session that it had, or gets the one that its opener was just given. -/
theorem EntryChange.session {w v : World} {e : EntryId} {x : Event} {b : Entry} {s : SessionId}
    (h : EntryChange w e x v b) (session : b.session = some s) :
    (w.entries e).session = some s ∧ b.identity = (w.entries e).identity ∨
      s = w.opened ∧ w.opened < v.opened ∧ b.identity = (w.entries e).identity ∧
        ∃ t, w.IsOpening t e (v.sessions s).call := by
  cases h with
  | kept | ended | cancelled | failed | discarded => exact Or.inl ⟨session, rfl⟩
  | placed => cases session
  | @connected t m c k name alive v ht ha here later call =>
    have new : w.opened = s := Option.some.inj session
    refine Or.inr ⟨new.symm, later, rfl, t, c, ?_⟩
    rw [← new, call]
    exact ht

/-- A bridge that is off the list gets no session any more, and keeps the one that it had. -/
theorem EntryChange.session_of_unlisted {w v : World} {e : EntryId} {x : Event} {b : Entry}
    (h : EntryChange w e x v b) (made : e < w.made) (gone : w.isListed e = false) :
    b.session = (w.entries e).session := by
  cases h with
  | kept | ended | cancelled | failed | discarded => rfl
  | placed ht hi new => exact absurd new (Nat.ne_of_lt made)
  | connected ht ha here => exact absurd (gone.symm.trans here) Bool.false_ne_true

/-- How a task comes to watch a session: it did so before, or has just seen the session alive, or it
was started for a bridge that was just given the session. -/
theorem TaskChange.watches {w v : World} {t : TaskId} {x : Event} {q : Phase} {e : EntryId}
    {s : SessionId} (h : TaskChange w v t x q) (watched : q.watched = some (e, s)) :
    w.tasks t = some q ∨
      (∃ n, w.tasks t = some (.watch e s n) ∧ q = .watching e s n ∧ w.isAlive s) ∨
      ∃ n, q = .watch e s n ∧ (v.entries e).session = some s ∧ n ≤ (v.sessions s).notices := by
  cases h with
  | kept old => exact Or.inl old
  | passed old h =>
    rcases h.watched with none | ⟨a, u, n, rfl, rfl, alive⟩
    · rw [none] at watched
      cases watched
    · cases watched
      exact Or.inr (Or.inl ⟨n, old, rfl, alive⟩)
  | watching new session le =>
    cases watched
    exact Or.inr (Or.inr ⟨_, rfl, session, le⟩)
  | @started o =>
    rw [o.start_watched] at watched
    cases watched
  | ended old h =>
    rw [h.watched] at watched
    cases watched
  | @closed m e s q =>
    rw [q.after_watched] at watched
    cases watched
  | @answered m c =>
    rw [(c.after_hasResult _).watched] at watched
    cases watched
  | opening | discarded | replied | aborted => cases watched

namespace World

/-- Sessions belong to the bridges that they were opened for, and are watched for them. -/
structure Linked (w : World) : Prop where
  origin {e : EntryId} {s : SessionId} : (w.entries e).session = some s →
    s < w.opened ∧ w.openedFor s = some (w.entries e).identity
  watcher {t : TaskId} {p : Phase} {e : EntryId} {s : SessionId} :
    w.tasks t = some p → p.watched = some (e, s) → (w.entries e).session = some s

end World

namespace Move

variable {w v : World} {x : Event} {e : EntryId} {s : SessionId}

theorem session_kept (h : Move w x v) (sound : w.Sound) (session : (w.entries e).session = some s) :
    (v.entries e).session = some s :=
  (h.grows sound (sound.tidy.lt_made_of_session session)).session session

theorem origin (h : Move w x v) (sound : w.Sound) (linked : w.Linked)
    (session : (v.entries e).session = some s) :
    s < v.opened ∧ v.openedFor s = some (v.entries e).identity := by
  rcases (h.entry e).session session with ⟨old, identity⟩ | ⟨rfl, later, identity, t, opening⟩
  · obtain ⟨there, opened⟩ := linked.origin old
    rw [identity]
    exact ⟨Nat.lt_of_lt_of_le there h.opened_le, h.openedFor there opened⟩
  · obtain ⟨c, called, same⟩ := sound.manned.called opening
    obtain ⟨cs, calls⟩ := h.calls
    have inside := (List.getElem?_eq_some_iff.mp called).1
    refine ⟨later, ?_⟩
    rw [World.openedFor, calls, List.getElem?_append_left inside, called, identity, ← same]
    rfl

theorem watcher (h : Move w x v) (sound : w.Sound) (linked : w.Linked) {t : TaskId} {p : Phase}
    (ht : v.tasks t = some p) (watched : p.watched = some (e, s)) :
    (v.entries e).session = some s := by
  rcases (h.task ht).watches watched with old | ⟨n, old, -, -⟩ | ⟨n, -, session, -⟩
  · exact h.session_kept sound (linked.watcher old watched)
  · exact h.session_kept sound (linked.watcher old rfl)
  · exact session

theorem linked (h : Move w x v) (sound : w.Sound) (linked : w.Linked) : v.Linked :=
  ⟨h.origin sound linked, h.watcher sound linked⟩

end Move

/-- What lasts whatever happens to a session lasts along a run. -/
theorem Session.Lasting.run {R : Session → Session → Prop} (lasting : Session.Lasting R) {w : World}
    {s : SessionId} (there : s < w.opened) (ys : List Event) :
    R (w.sessions s) ((w.run ys).sessions s) := by
  induction ys generalizing w with
  | nil => exact lasting.refl _
  | cons y ys ih =>
    have move := World.apply_move w y
    exact lasting.trans (lasting.move move there) (ih (Nat.lt_of_lt_of_le there move.opened_le))

theorem World.opened_le_run (w : World) (ys : List Event) : w.opened ≤ (w.run ys).opened := by
  induction ys generalizing w with
  | nil => exact Nat.le_refl _
  | cons y ys ih => exact Nat.le_trans (World.apply_move w y).opened_le (ih (w.apply y))

/-- A session that is not alive stays so. -/
theorem Session.dead_lasting : Session.Lasting fun x y => x.alive = false → y.alive = false where
  refl _ := id
  trans h h' := h' ∘ h
  event y x := by
    intro dead
    cases y with
    | drop | die => rfl
    | signal | hangUp => exact dead
  tell _ := id

/-- A session has sent its notification, or closed the channel of it. -/
def Session.Announced (x : Session) : Prop := 0 < x.notices ∨ x.hungUp

/-- Whoever looks finds that a session is over: it is not alive, or it says so. -/
def Session.Spent (x : Session) : Prop := x.alive = false ∨ x.Announced

namespace World

/-- The links hold in every world that a run leads to. -/
theorem linked_run (xs : List Event) : (World.run {} xs).Linked := by
  have start : World.Linked {} := by
    constructor
    · intro e s h
      cases h
    · intro t p e s h
      cases h
  have kept := run_keeps (P := fun w => w.Sound ∧ w.Linked)
    (fun w x h => ⟨h.1.apply x, (apply_move w x).linked h.1 h.2⟩) {} ⟨sound_empty, start⟩ xs
  exact kept.2

end World

/-! ## Sessions belong to one bridge -/

def World.Apart (w : World) : Prop :=
  ∀ a e s, (w.entries a).session = some s → (w.entries e).session = some s → a = e

/-- A bridge that gets a session gets the one that is new, by a step of its opener. -/
theorem EntryChange.given {w v : World} {e : EntryId} {x : Event} {b : Entry} {s : SessionId}
    (h : EntryChange w e x v b) (session : b.session = some s) :
    (w.entries e).session = some s ∨
      s = w.opened ∧ ∃ t m c k, x = .run t m ∧ w.tasks t = some (.opening c e k) := by
  cases h with
  | kept | ended | cancelled | failed | discarded => exact Or.inl session
  | placed => cases session
  | @connected t m c k name alive v ht =>
    exact Or.inr ⟨(Option.some.inj session).symm, t, m, c, k, rfl, ht⟩

theorem Move.apart {w v : World} {x : Event} (h : Move w x v) (linked : w.Linked)
    (apart : w.Apart) : v.Apart := by
  intro a e s ha he
  rcases (h.entry a).given ha with oldA | ⟨newA, t, m, c, k, rfl, opensA⟩
  · rcases (h.entry e).given he with oldE | ⟨newE, -⟩
    · exact apart a e s oldA oldE
    · exact absurd newE (Nat.ne_of_lt (linked.origin oldA).1)
  · rcases (h.entry e).given he with oldE | ⟨-, u, n, d, l, same, opensE⟩
    · exact absurd newA (Nat.ne_of_lt (linked.origin oldE).1)
    · obtain ⟨rfl, -⟩ := Event.run.inj same
      have phases := Option.some.inj (opensA.symm.trans opensE)
      exact (Phase.opening.inj phases).2.1

theorem World.apart_run (xs : List Event) : (World.run {} xs).Apart := by
  have start : World.Apart {} := by
    intro a e s h
    cases h
  have kept := World.run_keeps (P := fun w => (w.Sound ∧ w.Linked) ∧ w.Apart)
    (fun w x h => by
      have move := World.apply_move w x
      exact ⟨⟨h.1.1.apply x, move.linked h.1.1 h.1.2⟩, move.apart h.1.2 h.2⟩)
    {} ⟨⟨World.sound_empty, World.linked_run []⟩, start⟩ xs
  exact kept.2

end BridgeKeeper.Bridge
