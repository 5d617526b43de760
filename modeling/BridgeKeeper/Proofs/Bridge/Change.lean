import BridgeKeeper.Proofs.Bridge.Phase

/-!
# What an event does to one bridge and to one task

`Move` says what an event does to the whole world. There is less to tell of one bridge or of one
task, and what holds of each of them along a run follows from the two lists here.
-/
namespace BridgeKeeper.Bridge

def Event.task : Event → Option TaskId
  | run t _ | reply t _ | abort t => some t
  | _ => none

/-- What an event makes of one bridge. -/
inductive EntryChange (w : World) (e : EntryId) : Event → World → Entry → Prop
  | kept {x v} : EntryChange w e x v (w.entries e)
  | placed {t m c i r v} : w.tasks t = some (.ensure c i (some r)) → w.listed i = none →
    e = w.made → EntryChange w e (.run t m) v (.placeholder i r)
  | ended {t m p s q v} : w.tasks t = some p → Ends w e p s q → w.isListed e →
    v.tasks t = some q →
    EntryChange w e (.run t m) v { w.entries e with status := .disconnected }
  | cancelled {t c k v} : w.tasks t = some (.opening c e k) →
    EntryChange w e (.abort t) v
      { w.entries e with failure := some "open cancelled", status := .disconnected }
  | failed {t m c k f v} : w.tasks t = some (.opening c e k) → w.answers k = some (.failure f) →
    EntryChange w e (.run t m) v
      { w.entries e with failure := some f.message, status := .disconnected }
  | connected {t m c k name alive v} : w.tasks t = some (.opening c e k) →
    w.answers k = some (.session name alive) → w.isListed e → w.opened < v.opened →
    (v.sessions w.opened).call = k →
    EntryChange w e (.run t m) v
      { w.entries e with session := some w.opened, status := .connected }
  | discarded {t m c k name alive v} : w.tasks t = some (.opening c e k) →
    w.answers k = some (.session name alive) → w.isListed e = false →
    EntryChange w e (.run t m) v
      { w.entries e with failure := some "removed while connecting", status := .disconnected }

/-- How a task comes to be in a phase by an event. -/
inductive TaskChange (w v : World) (t : TaskId) : Event → Phase → Prop
  | kept {x p} : w.tasks t = some p → TaskChange w v t x p
  | started {o} : t = w.spawned → TaskChange w v t (.start o) o.start
  | passed {m p q rs} : w.tasks t = some p → Passes w p q rs → TaskChange w v t (.run t m) q
  | ended {m e p s q} : w.tasks t = some p → Ends w e p s q → TaskChange w v t (.run t m) q
  | closed {m e s q} : w.tasks t = some (.closing e s q) →
    TaskChange w v t (.run t m) (q.after w e)
  | opening {m c i r} : w.tasks t = some (.ensure c i (some r)) →
    TaskChange w v t (.run t m) (.opening c w.made w.calls.length)
  | answered {m c e k a r} : w.tasks t = some (.opening c e k) → w.answers k = some a →
    Answered w e a r → TaskChange w v t (.run t m) (c.after r)
  | discarded {m c e k name alive} : w.tasks t = some (.opening c e k) →
    w.answers k = some (.session name alive) → w.isListed e = false →
    TaskChange w v t (.run t m) (.closing e w.opened (.discarded c))
  | replied {y r o} : w.tasks t = some (.reporting r o) →
    TaskChange w v t (.reply t y) (.done (.booted o))
  | aborted {p} : w.tasks t = some p → TaskChange w v t (.abort t) .aborted
  | watching {x e heard} : t = w.spawned → (v.entries e).session = some w.opened →
    heard ≤ (v.sessions w.opened).notices → TaskChange w v t x (.watch e w.opened heard)

/-- A relation between what a session was and what it is that holds whatever happened to it. -/
structure Session.Lasting (R : Session → Session → Prop) : Prop where
  refl (x : Session) : R x x
  trans {x y z : Session} : R x y → R y z → R x z
  event (y : SessionEvent) (x : Session) : R x (y.apply x)
  tell (x : Session) : R x { x with closes := x.closes + 1 }

/-- How a session changes: it stays the session of its call, and what it sent was sent. -/
structure Session.Ages (x y : Session) : Prop where
  call : y.call = x.call
  notices : x.notices ≤ y.notices

theorem Session.ages_lasting : Session.Lasting Session.Ages where
  refl _ := ⟨rfl, Nat.le_refl _⟩
  trans h h' := ⟨h'.call.trans h.call, Nat.le_trans h.notices h'.notices⟩
  event y x := by
    cases y with
    | drop | signal => exact ⟨rfl, Nat.le_succ _⟩
    | die | hangUp => exact ⟨rfl, Nat.le_refl _⟩
  tell _ := ⟨rfl, Nat.le_refl _⟩

namespace World

variable {w : World} {t u : TaskId} {p q : Phase} {rs : List Directory.Report} {s : SessionId}

theorem tasks_proceed (h : (w.proceed t q rs).tasks u = some p) :
    u = t ∧ p = q ∨ w.tasks u = some p := by
  by_cases hu : u = t
  · have same : q = p := by simpa [proceed, put, hu] using h
    exact Or.inl ⟨hu, same.symm⟩
  · exact Or.inr (by simpa [proceed, put, hu] using h)

theorem tasks_spawn (h : (w.spawn q).tasks u = some p) :
    u = w.spawned ∧ p = q ∨ w.tasks u = some p := by
  by_cases hu : u = w.spawned
  · have same : q = p := by simpa [spawn, put, hu] using h
    exact Or.inl ⟨hu, same.symm⟩
  · exact Or.inr (by simpa [spawn, put, hu] using h)

theorem sessions_deliver (old : s ≠ w.opened) (name : String) (k : CallId) (alive : Bool) :
    (w.deliver name k alive).sessions s = w.sessions s :=
  put_other _ _ old

end World

namespace Session.Lasting

variable {R : Session → Session → Prop} {w : World}

theorem put (lasting : Session.Lasting R) {s : SessionId} {x : Session} (h : R (w.sessions s) x)
    (u : SessionId) : R (w.sessions u) (BridgeKeeper.put w.sessions s x u) := by
  by_cases hu : u = s
  · rw [hu, put_same]
    exact h
  · rw [put_other _ _ hu]
    exact lasting.refl _

theorem sessionEvents (lasting : Session.Lasting R) (w : World) (xs : List SessionEvent)
    (s : SessionId) : R (w.sessions s) ((w.sessionEvents xs).sessions s) := by
  induction xs generalizing w with
  | nil => exact lasting.refl _
  | cons x xs ih =>
    refine lasting.trans ?_ (ih (w.sessionEvent x))
    rw [World.sessions_sessionEvent]
    split
    · exact lasting.event x _
    · exact lasting.refl _

theorem received (lasting : Session.Lasting R) (w : World) (k : CallId) (m : Meanwhile)
    (name : String) (alive : Bool) (s : SessionId) :
    R ((w.deliver name k alive).sessions s) ((w.received k m name alive).sessions s) :=
  lasting.trans (lasting.sessionEvents _ m.delivered s) (lasting.sessionEvents _ m.subscribed s)

end Session.Lasting

namespace World

variable {w : World} {t u : TaskId} {p q : Phase} {rs : List Directory.Report} {s : SessionId}

theorem call_received (w : World) (k : CallId) (m : Meanwhile) (name : String) (alive : Bool)
    (s : SessionId) : ((w.received k m name alive).sessions s).call =
      if s = w.opened then k else (w.sessions s).call := by
  rw [(Session.ages_lasting.received w k m name alive s).call]
  by_cases hs : s = w.opened
  · simp [deliver, put, hs]
  · simp [deliver, put, hs]

/-- Who subscribed to a session heard no more than was sent. -/
theorem heardBy_le (w : World) (k : CallId) (m : Meanwhile) (name : String) (alive : Bool) :
    w.heardBy k m name alive ≤ ((w.received k m name alive).sessions w.opened).notices :=
  (Session.ages_lasting.sessionEvents _ m.subscribed w.opened).notices

/-- The task that an event is about is in one phase. -/
theorem phase_of_own {w : World} {t u : TaskId} {p q : Phase} (ht : w.tasks t = some p)
    (hu : w.tasks u = some q) (own : some u = some t) : p = q := by
  cases own
  exact Option.some.inj (ht.symm.trans hu)

end World

/-- A task that is there stays in its phase while events are about others. -/
theorem TaskChange.kept_of_other {w v : World} {t : TaskId} {x : Event} {q : Phase}
    (h : TaskChange w v t x q) (other : x.task ≠ some t) (there : t < w.spawned) :
    w.tasks t = some q := by
  cases h with
  | kept old => exact old
  | started new | watching new => exact absurd new (Nat.ne_of_lt there)
  | passed | ended | closed | opening | answered | discarded | replied | aborted =>
    exact absurd rfl other

namespace Move

variable {w v : World} {x : Event} {t : TaskId} {q : Phase}

/-- An event changes one bridge in one of the ways of `EntryChange`. -/
theorem entry (h : Move w x v) (e : EntryId) : EntryChange w e x v (v.entries e) := by
  have changed {a : EntryId} {b : Entry} (entries : v.entries = put w.entries a b)
      (here : EntryChange w a x v b) : EntryChange w e x v (v.entries e) := by
    rw [entries]
    by_cases he : e = a
    · rw [he, put_same]
      exact here
    · rw [put_other _ _ he]
      exact .kept
  cases h with
  | rest | start | answer | listen | session | reply | abort | pass => exact .kept
  | closed =>
    rw [World.sessionEvent_eq]
    exact .kept
  | cancel ht => exact changed (by rw [World.rollBack_eq]; rfl) (.cancelled ht)
  | @ends t m a p s q ht h =>
    have entries : (((w.retire a).tells s).proceed t q []).entries = (w.retire a).entries := by
      rw [World.tells_retire]
      rfl
    rw [entries, World.retire_entries, World.retire_status]
    split
    · next ending =>
      obtain ⟨here, rfl⟩ := ending
      exact .ended ht h here (put_same _ _ _)
    · exact .kept
  | unlist =>
    rw [World.unlist_eq]
    exact .kept
  | place ht hi hr => exact changed rfl (.placed ht hi rfl)
  | fail ht ha => exact changed (by rw [World.rollBack_eq]; rfl) (.failed ht ha)
  | @commit t m c a k name alive ht ha here =>
    have call := World.call_received w k m name alive w.opened
    rw [if_pos rfl] at call
    have opened : w.opened < (w.received k m name alive).opened := by
      rw [World.received_eq]
      exact Nat.lt_succ_self _
    exact changed (by rw [World.received_eq]; rfl) (.connected ht ha here opened call)
  | discard ht ha gone => exact changed (by rw [World.received_eq]; rfl) (.discarded ht ha gone)

/-- A task comes to its phase in one of the ways of `TaskChange`. -/
theorem task (h : Move w x v) (ht : v.tasks t = some q) : TaskChange w v t x q := by
  have went {z : World} {u : TaskId} {p : Phase} {rs : List Directory.Report}
      (ht : (z.proceed u p rs).tasks t = some q) (tasks : z.tasks = w.tasks)
      (here : TaskChange w v u x p) : TaskChange w v t x q := by
    rcases World.tasks_proceed ht with ⟨rfl, rfl⟩ | old
    · exact here
    · rw [tasks] at old
      exact .kept old
  cases h with
  | rest | answer | listen | session => exact .kept ht
  | start o =>
    rcases World.tasks_spawn ht with ⟨new, rfl⟩ | old
    · exact .started new
    · exact .kept old
  | reply hu => exact went ht rfl (.replied hu)
  | abort hu => exact went ht rfl (.aborted hu)
  | cancel hu => exact went ht (by rw [World.rollBack_eq]) (.aborted hu)
  | pass hu h => exact went ht rfl (.passed hu h)
  | ends hu h => exact went ht (by rw [World.tells_retire]) (.ended hu h)
  | closed hu => exact went ht (by rw [World.sessionEvent_eq]) (.closed hu)
  | unlist =>
    rw [World.unlist_eq] at ht
    exact .kept ht
  | place hu hi hr => exact went ht rfl (.opening hu)
  | fail hu ha => exact went ht (by rw [World.rollBack_eq]) (.answered hu ha (.failed _))
  | @commit u m c e k name alive hu ha here =>
    rcases World.tasks_proceed ht with ⟨rfl, rfl⟩ | others
    · exact .answered hu ha (.connected here)
    · rw [World.received_eq] at others
      rcases World.tasks_spawn others with ⟨new, rfl⟩ | old
      · exact .watching new
          (by simp [World.proceed, World.spawn, World.attach, World.setEntry, put_same])
          (World.heardBy_le w k m name alive)
      · exact .kept old
  | discard hu ha gone => exact went ht (by rw [World.received_eq]; rfl) (.discarded hu ha gone)

/-- A task that is there stays there, in whatever phase. -/
theorem task_stays (h : Move w x v) {p : Phase} (ht : w.tasks t = some p) :
    ∃ q, v.tasks t = some q := by
  have set {T : TaskId → Option Phase} {u : TaskId} {r : Phase} (old : ∃ q, T t = some q) :
      ∃ q, put T u (some r) t = some q := by
    by_cases same : t = u
    · exact ⟨r, by rw [same, put_same]⟩
    · rwa [put_other _ _ same]
  cases h with
  | rest | answer | listen | session => exact ⟨p, ht⟩
  | start | reply | abort | pass | place => exact set ⟨p, ht⟩
  | cancel | fail => exact set ⟨p, by rw [World.rollBack_eq]; exact ht⟩
  | ends hu h => exact set ⟨p, by rw [World.tells_retire]; exact ht⟩
  | closed => exact set ⟨p, by rw [World.sessionEvent_eq]; exact ht⟩
  | unlist => exact ⟨p, by rw [World.unlist_eq]; exact ht⟩
  | commit => exact set (set ⟨p, by rw [World.received_eq]; exact ht⟩)
  | discard => exact set ⟨p, by rw [World.received_eq]; exact ht⟩

end Move
end BridgeKeeper.Bridge
