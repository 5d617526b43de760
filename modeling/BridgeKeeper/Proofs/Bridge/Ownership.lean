import BridgeKeeper.Proofs.Bridge.Closing
import BridgeKeeper.Proofs.Bridge.Rest

/-!
# Who owns a session

A session that is alive is the session of the bridge that is listed under the identity for which it
was opened, or a task waits for it to be closed, or such a task was cancelled. So an identity has at
most one once all closes are through. This needs sessions that do not announce their end while they
are alive: who hears of an end takes the bridge off the list and closes nothing.
-/
namespace BridgeKeeper.Bridge

namespace World

variable {w v : World} {t : TaskId} {e : EntryId} {s : SessionId}

/-! ## Honest sessions -/

/-- A session sends its notification, or closes the channel of it, only when it is not alive. -/
def HonestEvent (w : World) : SessionEvent → Prop
  | .drop _ | .die _ => True
  | .signal s | .hangUp s => w.isAlive s = false

def HonestEvents (w : World) : List SessionEvent → Prop
  | [] => True
  | x :: xs => w.HonestEvent x ∧ (w.sessionEvent x).HonestEvents xs

def HonestAt (w : World) : Event → Prop
  | .session x => w.HonestEvent x
  | .run t m => ∀ c e k name alive, w.tasks t = some (.opening c e k) →
      w.answers k = some (.session name alive) →
      (w.deliver name k alive).HonestEvents (m.delivered ++ m.subscribed)
  | _ => True

def Honest (w : World) : List Event → Prop
  | [] => True
  | x :: xs => w.HonestAt x ∧ (w.apply x).Honest xs

/-! ## Sessions only fade -/

/-- A session that is alive was alive before, and has announced nothing since. -/
def Fades (w v : World) : Prop :=
  ∀ s, v.isAlive s → w.isAlive s ∧ ((v.sessions s).Announced → (w.sessions s).Announced)

theorem Fades.refl (w : World) : w.Fades w :=
  fun _ alive => ⟨alive, id⟩

theorem Fades.of_eq (h : v.sessions = w.sessions) : w.Fades v := by
  intro s alive
  rw [isAlive, h] at alive
  rw [h]
  exact ⟨alive, id⟩

theorem Fades.trans {u : World} (h : w.Fades v) (h' : v.Fades u) : w.Fades u := by
  intro s alive
  obtain ⟨alive', announced'⟩ := h' s alive
  obtain ⟨alive, announced⟩ := h s alive'
  exact ⟨alive, announced ∘ announced'⟩

theorem fades_put {x : Session}
    (h : x.alive → w.isAlive s ∧ (x.Announced → (w.sessions s).Announced)) :
    w.Fades { w with sessions := put w.sessions s x } := by
  intro u
  by_cases hu : u = s
  · simpa [isAlive, put, hu] using h
  · simp [isAlive, put, hu]

/-- A session that was told to close is as it was in all else. -/
theorem fades_tells (w : World) (s : Option SessionId) : w.Fades (w.tells s) := by
  cases s with
  | some s => exact fades_put fun alive => ⟨alive, id⟩
  | none => exact Fades.refl w

theorem fades_sessionEvent {x : SessionEvent} (honest : w.HonestEvent x) :
    w.Fades (w.sessionEvent x) := by
  rw [sessionEvent]
  split
  · cases x with
    | drop s | die s => exact fades_put fun alive => absurd alive Bool.false_ne_true
    | signal s | hangUp s =>
      exact fades_put fun alive => absurd (honest.symm.trans alive) Bool.false_ne_true
  · exact Fades.refl w

theorem fades_sessionEvents {xs : List SessionEvent} (honest : w.HonestEvents xs) :
    w.Fades (w.sessionEvents xs) := by
  induction xs generalizing w with
  | nil => exact Fades.refl w
  | cons x xs ih => exact (fades_sessionEvent honest.1).trans (ih honest.2)

/-- What is alive of the sessions after one was received: the new one, which has announced nothing,
or an old one that was alive before. -/
theorem alive_received {k : CallId} {m : Meanwhile} {name : String} {alive : Bool}
    (honest : (w.deliver name k alive).HonestEvents (m.delivered ++ m.subscribed))
    (h : (w.received k m name alive).isAlive s) :
    s = w.opened ∧ ¬ ((w.received k m name alive).sessions s).Announced ∨
      w.isAlive s ∧
        (((w.received k m name alive).sessions s).Announced → (w.sessions s).Announced) := by
  have fades : (w.deliver name k alive).Fades (w.received k m name alive) := by
    have := fades_sessionEvents honest
    rwa [sessionEvents, List.foldl_append] at this
  obtain ⟨before, announced⟩ := fades s h
  by_cases hs : s = w.opened
  · refine Or.inl ⟨hs, fun said => ?_⟩
    have new := announced said
    simp [deliver, put, hs, Session.Announced] at new
  · have same := sessions_deliver hs name k alive
    rw [isAlive, same] at before
    rw [same] at announced
    exact Or.inr ⟨before, announced⟩

/-! ## Closes that take their time -/

def IsClosing (w : World) (s : SessionId) : Prop :=
  ∃ t e z, w.tasks t = some (.closing e s z)

def Cuts (w : World) (s : SessionId) (x : Event) : Prop :=
  ∃ t e z, x = .abort t ∧ w.tasks t = some (.closing e s z)

/-- Somewhere in a run a close of the session was cut short. -/
def CutShort (w : World) (s : SessionId) : List Event → Prop
  | [] => False
  | x :: xs => w.Cuts s x ∨ (w.apply x).CutShort s xs

/-- Who was cancelled stays so. -/
theorem aborted_run (ht : w.tasks t = some .aborted) (sound : w.Sound) (ys : List Event) :
    (w.run ys).tasks t = some .aborted := by
  have kept := run_keeps (P := fun v => v.Sound ∧ v.tasks t = some .aborted)
    (fun v x ⟨sound, ht⟩ => by
      refine ⟨sound.apply x, ?_⟩
      obtain ⟨q, hq⟩ := (apply_move v x).task_stays ht
      have there := sound.manned.lt_spawned ht
      cases (apply_move v x).task hq with
      | kept old =>
        cases ht.symm.trans old
        exact hq
      | started new | watching new => exact absurd new (Nat.ne_of_lt there)
      | aborted => exact hq
      | passed old passes =>
        cases ht.symm.trans old
        cases passes
      | ended old ends =>
        cases ht.symm.trans old
        cases ends
      | closed old | opening old | answered old | discarded old | replied old =>
        cases ht.symm.trans old)
    w ⟨sound, ht⟩ ys
  exact kept.2

/-- A task that waits for a session to be closed still does so at the end of a run, or the session is not
alive, or the task was cancelled. -/
theorem Closes.run {z : Sequel} (closes : w.Closes e s z) (regular : w.Regular)
    (ht : w.tasks t = some (.closing e s z)) (ys : List Event) :
    (w.run ys).tasks t = some (.closing e s z) ∨ (w.run ys).isAlive s = false ∨
      w.CutShort s ys ∧ (w.run ys).tasks t = some .aborted := by
  induction ys generalizing w with
  | nil => exact Or.inl ht
  | cons y ys ih =>
    have move := apply_move w y
    rcases closes.goes_on regular.sound ht y with waits | dead | rfl
    · have later := ih (closes.move regular.sound move) (regular.apply y) waits
      exact later.imp_right (Or.imp_right (And.imp_left Or.inr))
    · have opened := Nat.lt_of_lt_of_le closes.opened move.opened_le
      exact Or.inr (Or.inl (Session.dead_lasting.run opened ys dead))
    · have cancelled : (w.apply (.abort t)).tasks t = some .aborted := by
        simp [World.apply, abort, ht, setTask, put]
      exact Or.inr (Or.inr ⟨Or.inl ⟨t, e, z, rfl, ht⟩,
        aborted_run cancelled (regular.sound.apply _) ys⟩)

/-- Every session that is alive has announced nothing, and it has its bridge, or is being closed, or
its close was cut short. -/
structure Owned (w : World) (cut : SessionId → Prop) : Prop where
  silent {s : SessionId} : w.isAlive s → ¬ (w.sessions s).Announced
  owner {s : SessionId} : w.isAlive s →
    (∃ e, w.status e = .connected ∧ (w.entries e).session = some s) ∨ w.IsClosing s ∨ cut s

theorem Owned.mono {cut cut' : SessionId → Prop} (owned : w.Owned cut) (more : ∀ {s}, cut s → cut' s) :
    w.Owned cut' where
  silent := owned.silent
  owner alive := (owned.owner alive).imp_right (Or.imp_right more)

theorem Owned.not_isAlive {cut : SessionId → Prop} (owned : w.Owned cut)
    (spent : (w.sessions s).Spent) : w.isAlive s = false := by
  rcases spent with dead | announced
  · exact dead
  · exact Bool.eq_false_iff.mpr fun alive => owned.silent alive announced

end World

/-- A bridge is ended because its session is dead or announced its end, or else the session is told
to close. -/
theorem Ends.spent {w : World} {t : TaskId} {e : EntryId} {p q : Phase} {s : SessionId}
    {u : Option SessionId} (h : Ends w e p u q) (ht : w.tasks t = some p) (linked : w.Linked)
    (session : (w.entries e).session = some s) :
    (w.sessions s).Spent ∨ u = some s ∧ ∃ z, q = .closing e s z := by
  have upon {z : Sequel} (u : Option SessionId) (told : u = some s) :
      u = some s ∧ ∃ z', z.upon w e u = .closing e s z' := ⟨told, z, by rw [told]; rfl⟩
  cases h with
  | remove | clear =>
    cases alive : w.isAlive s with
    | true => exact Or.inr (upon _ (World.liveSession_eq_some_iff.mpr ⟨session, alive⟩))
    | false => exact Or.inl (Or.inl alive)
  | disconnect | settled => exact Or.inr (upon _ session)
  | replace hi hs dead =>
    exact Or.inl (Or.inl (by simpa [World.isConnected, World.isAlive, hs, session] using dead))
  | dead gone =>
    have watched := linked.watcher ht rfl
    rw [session, Option.some.injEq] at watched
    exact Or.inl (Or.inl (watched ▸ gone))
  | @ended u heard ended =>
    have watched := linked.watcher ht rfl
    rw [session, Option.some.injEq] at watched
    simp only [World.hasEnded, Bool.or_eq_true, decide_eq_true_eq] at ended
    exact Or.inl (Or.inr (watched ▸ ended.imp_left Nat.zero_lt_of_lt))

/-- The owner of a session that is alive keeps it, or a task waits for it to be closed. -/
theorem EntryChange.owner {w v : World} {e : EntryId} {x : Event} {b : Entry} {s : SessionId}
    {cut : SessionId → Prop} (h : EntryChange w e x v b) (sound : w.Sound) (linked : w.Linked)
    (owned : w.Owned cut) (connected : w.status e = .connected)
    (session : (w.entries e).session = some s) (alive : w.isAlive s) :
    b.status = .connected ∧ b.session = some s ∨ v.IsClosing s := by
  have opened {t c k} (ht : w.tasks t = some (.opening c e k)) : False := by
    have bare := (sound.manned.bare ⟨c, ht⟩).1
    rw [bare] at session
    cases session
  cases h with
  | kept => exact Or.inl ⟨connected, session⟩
  | placed ht hi new => exact absurd new (Nat.ne_of_lt (sound.tidy.lt_made_of_session session))
  | ended ht ends here goes =>
    rcases ends.spent ht linked session with spent | ⟨-, z, rfl⟩
    · exact absurd ((owned.not_isAlive spent).symm.trans alive) Bool.false_ne_true
    · exact Or.inr ⟨_, e, z, goes⟩
  | cancelled ht | failed ht | connected ht | discarded ht => exact (opened ht).elim

namespace Move

variable {w v : World} {x : Event} {s : SessionId}

/-- A session that is alive after an event was alive before and has announced nothing since, or it
was delivered just now; then it has announced nothing, and is the session of a bridge or about to be
closed. -/
theorem alive_cases (h : Move w x v) (honest : w.HonestAt x) (alive : v.isAlive s) :
    w.isAlive s ∧ ((v.sessions s).Announced → (w.sessions s).Announced) ∨
      ¬ (v.sessions s).Announced ∧
        ((∃ e, v.status e = .connected ∧ (v.entries e).session = some s) ∨ v.IsClosing s) := by
  have fades (h : w.Fades v) : w.isAlive s ∧
      ((v.sessions s).Announced → (w.sessions s).Announced) := h s alive
  cases h with
  | rest | start | answer | listen | reply | abort | pass | place =>
    exact Or.inl (fades (World.Fades.of_eq rfl))
  | cancel | fail => exact Or.inl (fades (World.Fades.of_eq (by rw [World.rollBack_eq]; rfl)))
  | @session x inside =>
    have lives := World.fades_sessionEvent honest
    rw [World.sessionEvent, if_pos inside] at lives
    exact Or.inl (fades lives)
  | @ends t m e p u q =>
    refine Or.inl (fades ((World.fades_tells w u).trans (World.Fades.of_eq ?_)))
    rw [World.tells_retire]
    rfl
  | @closed t m e u z =>
    exact Or.inl (fades ((World.fades_sessionEvent (x := .drop u) trivial).trans
      (World.Fades.of_eq rfl)))
  | unlist => exact Or.inl (fades (World.Fades.of_eq (by rw [World.unlist_eq])))
  | @commit t m c e k name live ht ha here =>
    rcases World.alive_received (honest c e k name live ht ha) alive with ⟨new, silent⟩ | old
    · refine Or.inr ⟨silent, Or.inl ⟨e, ?_, ?_⟩⟩
      · simp [World.status, World.proceed, World.spawn, World.attach, World.setEntry, put]
      · simp [World.proceed, World.spawn, World.attach, World.setEntry, put, new]
    · exact Or.inl old
  | @discard t m c e k name live ht ha gone =>
    have closing := World.fades_tells
      ((w.received k m name live).fail e "removed while connecting") (some w.opened)
    obtain ⟨before, announced⟩ := closing s alive
    rcases World.alive_received (honest c e k name live ht ha) before with ⟨rfl, silent⟩ | old
    · exact Or.inr ⟨silent ∘ announced, Or.inr ⟨t, e, _, put_same _ _ _⟩⟩
    · exact Or.inl ⟨old.1, old.2 ∘ announced⟩

end Move

namespace World

variable {w : World} {s : SessionId}

theorem Owned.apply {cut : SessionId → Prop} {x : Event} (owned : w.Owned cut)
    (honest : w.HonestAt x) (regular : w.Regular) :
    (w.apply x).Owned fun s => cut s ∨ w.Cuts s x := by
  obtain ⟨sound, linked, -, closing⟩ := regular
  have move := apply_move w x
  constructor
  · intro s alive
    rcases move.alive_cases honest alive with ⟨before, announced⟩ | ⟨silent, -⟩
    · exact owned.silent before ∘ announced
    · exact silent
  · intro s alive
    rcases move.alive_cases honest alive with ⟨before, -⟩ | ⟨-, owner | waits⟩
    · rcases owned.owner before with ⟨e, connected, session⟩ | ⟨t, e, z, ht⟩ | was
      · rcases (move.entry e).owner sound linked owned connected session before with kept | waits
        · exact Or.inl ⟨e, kept⟩
        · exact Or.inr (Or.inl waits)
      · rcases (closing t e s z ht).goes_on sound ht x with waits | dead | cancelled
        · exact Or.inr (Or.inl ⟨t, e, z, waits⟩)
        · exact absurd (dead.symm.trans alive) Bool.false_ne_true
        · exact Or.inr (Or.inr (Or.inr ⟨t, e, z, cancelled, ht⟩))
      · exact Or.inr (Or.inr (Or.inl was))
    · exact Or.inl owner
    · exact Or.inr (Or.inl waits)

theorem owned_empty : World.Owned {} fun _ => False := by
  constructor
  · intro s h
    cases h
  · intro s h
    cases h

/-- The owners are kept along a run in which the sessions are honest. -/
theorem Owned.run {cut : SessionId → Prop} {xs : List Event} (owned : w.Owned cut)
    (honest : w.Honest xs) (regular : w.Regular) :
    (w.run xs).Owned fun s => cut s ∨ w.CutShort s xs := by
  induction xs generalizing w cut with
  | nil => exact owned.mono Or.inl
  | cons x xs ih =>
    exact (ih (owned.apply honest.1 regular) honest.2 (regular.apply x)).mono or_assoc.mp

theorem owned_run {xs : List Event} (honest : World.Honest {} xs) :
    (World.run {} xs).Owned fun s => CutShort {} s xs :=
  (owned_empty.run honest (regular_run [])).mono fun cut => cut.resolve_left id

def IsListedFor (w : World) (s : SessionId) (i : Identity) : Prop :=
  w.openedFor s = some i ∧ ∃ e, w.listed i = some e ∧ w.status e = .connected ∧
    (w.entries e).session = some s

/-- A bridge that is connected is listed, and its session was opened for it. -/
theorem Regular.isListedFor (regular : w.Regular) {e : EntryId} (connected : w.status e = .connected)
    (session : (w.entries e).session = some s) : w.IsListedFor s (w.entries e).identity := by
  obtain ⟨-, opened⟩ := regular.linked.origin session
  have here := (regular.sound.tidy.listed_iff e).mpr (by simp [connected])
  exact ⟨opened, e, here, connected, session⟩

theorem IsListedFor.eq {u : SessionId} {i : Identity} (h : w.IsListedFor s i)
    (h' : w.IsListedFor u i) : s = u := by
  obtain ⟨-, e, here, -, session⟩ := h
  obtain ⟨-, a, here', -, session'⟩ := h'
  obtain rfl : e = a := Option.some.inj (here.symm.trans here')
  exact Option.some.inj (session.symm.trans session')

/-- A session whose close was cut short had been told to close. -/
theorem Regular.told_of_cutShort (regular : w.Regular) {xs : List Event} (h : w.CutShort s xs) :
    s < (w.run xs).opened ∧ 0 < ((w.run xs).sessions s).closes := by
  induction xs generalizing w with
  | nil => exact h.elim
  | cons x xs ih =>
    rcases h with ⟨t, e, z, -, ht⟩ | later
    · have closes := regular.closing t e s z ht
      have told := Session.closes_lasting.run closes.opened (x :: xs)
      exact ⟨Nat.lt_of_lt_of_le closes.opened (w.opened_le_run _),
        Nat.lt_of_lt_of_le closes.told told⟩
    · exact ih (regular.apply x) later

end World
end BridgeKeeper.Bridge
