import BridgeKeeper.Proofs.Bridge.Change

/-!
# What every world keeps

Two invariants. `Tidy` is about the tables of bridges: a bridge is listed exactly while it is not
disconnected, and always under its own identity. `Manned` is about the tasks: a bridge that is
connecting has its opener, and no bridge has two. Every move keeps both.
-/
namespace BridgeKeeper.Bridge

/-- What the state of a bridge says about its session and its failure. -/
def Entry.Proper (b : Entry) : Prop :=
  match b.status with
  | .connecting => b.session = none ∧ b.failure = none
  | .connected => b.session ≠ none ∧ b.failure = none
  | .disconnected => b.session = none ∨ b.failure = none

namespace World

variable {w v : World} {e : EntryId}

structure Tidy (w : World) : Prop where
  listed_iff (e : EntryId) : w.listed (w.entries e).identity = some e ↔ w.status e ≠ .disconnected
  identity {i : Identity} {e : EntryId} : w.listed i = some e → (w.entries e).identity = i
  unmade {e : EntryId} : w.made ≤ e → w.entries e = .blank
  proper (e : EntryId) : (w.entries e).Proper

namespace Tidy

theorem isListed_iff (tidy : w.Tidy) (e : EntryId) : w.isListed e ↔ w.status e ≠ .disconnected :=
  World.isListed_iff.trans (tidy.listed_iff e)

theorem isListed_eq_false_iff (tidy : w.Tidy) (e : EntryId) :
    w.isListed e = false ↔ w.status e = .disconnected := by
  rw [← Bool.not_eq_true, tidy.isListed_iff]
  exact Decidable.not_not

theorem status_of_listed (tidy : w.Tidy) {i : Identity} (h : w.listed i = some e) :
    w.status e ≠ .disconnected :=
  (tidy.listed_iff e).mp (by rw [tidy.identity h, h])

theorem lt_made_of_ne (tidy : w.Tidy) (h : w.entries e ≠ .blank) : e < w.made := by
  by_cases made : e < w.made
  · exact made
  · exact absurd (tidy.unmade (Nat.le_of_not_lt made)) h

theorem lt_made (tidy : w.Tidy) (h : w.status e ≠ .disconnected) : e < w.made :=
  tidy.lt_made_of_ne fun blank => h (by rw [status, blank]; rfl)

theorem lt_made_of_session (tidy : w.Tidy) {s : SessionId} (h : (w.entries e).session = some s) :
    e < w.made := by
  apply tidy.lt_made_of_ne
  intro blank
  rw [blank] at h
  cases h

/-- The invariant is about three tables only. -/
theorem of_eq (tidy : w.Tidy) (listed : v.listed = w.listed) (entries : v.entries = w.entries)
    (made : v.made = w.made) : v.Tidy := by
  constructor
  · intro e
    rw [status, listed, entries]
    exact tidy.listed_iff e
  · intro i e h
    rw [listed] at h
    rw [entries]
    exact tidy.identity h
  · intro e h
    rw [made] at h
    rw [entries]
    exact tidy.unmade h
  · intro e
    rw [entries]
    exact tidy.proper e

/-- Off the list goes this bridge and no other. -/
theorem unlist_listed_iff (tidy : w.Tidy) {i : Identity} {a : EntryId} :
    (w.unlist e).listed i = some a ↔ w.listed i = some a ∧ a ≠ e := by
  cases h : w.isListed e with
  | true =>
    have here := World.isListed_iff.mp h
    rw [unlist_of_listed h]
    by_cases hi : i = (w.entries e).identity
    · subst i
      simp [put, here, eq_comm]
    · simp only [put, hi, if_false]
      constructor
      · intro ha
        exact ⟨ha, fun same => hi (by rw [← same, tidy.identity ha])⟩
      · exact And.left
  | false =>
    have absent := World.isListed_eq_false_iff.mp h
    rw [unlist_of_not_listed h]
    constructor
    · intro ha
      exact ⟨ha, fun same => absent (by rw [← same, tidy.identity ha, ha])⟩
    · exact And.left

/-- A bridge that leaves the list is disconnected, whatever else is noted in it. -/
theorem drop (tidy : w.Tidy) {b : Entry} (made : e < w.made) (status : b.status = .disconnected)
    (proper : b.Proper) :
    Tidy { w with listed := (w.unlist e).listed, entries := put w.entries e b } := by
  constructor
  · intro a
    by_cases ha : a = e
    · subst a
      simp [World.status, put, status, tidy.unlist_listed_iff]
    · simp only [World.status, put, ha, if_false]
      exact tidy.unlist_listed_iff.trans ((and_iff_left ha).trans (tidy.listed_iff a))
  · intro i a h
    obtain ⟨h, ha⟩ := tidy.unlist_listed_iff.mp h
    simpa [put, ha] using tidy.identity h
  · intro a h
    have ha : a ≠ e := Nat.ne_of_gt (Nat.lt_of_lt_of_le made h)
    simpa [put, ha] using tidy.unmade h
  · intro a
    by_cases ha : a = e
    · simpa [put, ha] using proper
    · simpa [put, ha] using tidy.proper a

theorem retire (tidy : w.Tidy) (e : EntryId) : (w.retire e).Tidy := by
  cases h : w.isListed e with
  | false => rwa [retire_of_not_listed h]
  | true =>
    have here := (tidy.isListed_iff e).mp h
    have proper : Entry.Proper { w.entries e with status := .disconnected } := by
      have := tidy.proper e
      rw [Entry.Proper] at this ⊢
      rw [status] at here
      cases hs : (w.entries e).status <;> simp_all
    have dropped := tidy.drop (b := { w.entries e with status := .disconnected })
      (tidy.lt_made here) rfl proper
    rw [unlist_of_listed h] at dropped
    rw [retire_of_listed h]
    exact dropped.of_eq rfl rfl rfl

/-- Whoever ends a bridge, it is disconnected then. -/
theorem status_retire (tidy : w.Tidy) (e : EntryId) : (w.retire e).status e = .disconnected := by
  rw [retire_status]
  split
  · rfl
  · next off => exact (tidy.isListed_eq_false_iff e).mp (by simpa using off)

theorem fail (tidy : w.Tidy) (made : e < w.made) (gone : w.isListed e = false)
    (bare : (w.entries e).session = none) (reason : String) : (w.fail e reason).Tidy := by
  have dropped := tidy.drop
    (b := { w.entries e with failure := some reason, status := .disconnected }) made rfl
    (Or.inl bare)
  rwa [unlist_of_not_listed gone] at dropped

theorem rollBack (tidy : w.Tidy) (made : e < w.made) (bare : (w.entries e).session = none)
    (reason : String) : (w.rollBack e reason).Tidy := by
  rw [rollBack_eq]
  exact tidy.drop made rfl (Or.inl bare)

theorem attach (tidy : w.Tidy) (here : w.isListed e) (s : SessionId) : (w.attach e s).Tidy := by
  have alive := (tidy.isListed_iff e).mp here
  constructor
  · intro a
    by_cases ha : a = e
    · subst a
      simpa [World.attach, setEntry, World.status, put] using World.isListed_iff.mp here
    · simpa [World.attach, setEntry, World.status, put, ha] using tidy.listed_iff a
  · intro i a h
    have same := tidy.identity h
    by_cases ha : a = e
    · simpa [World.attach, setEntry, put, ha] using ha ▸ same
    · simpa [World.attach, setEntry, put, ha] using same
  · intro a h
    have ha : a ≠ e := Nat.ne_of_gt (Nat.lt_of_lt_of_le (tidy.lt_made alive) h)
    simpa [World.attach, setEntry, put, ha] using tidy.unmade h
  · intro a
    by_cases ha : a = e
    · have := tidy.proper e
      rw [Entry.Proper] at this
      rw [World.status] at alive
      have plain : (w.entries e).failure = none := by
        cases hs : (w.entries e).status <;> simp_all
      simp [World.attach, setEntry, put, ha, Entry.Proper, plain]
    · simpa [World.attach, setEntry, put, ha] using tidy.proper a

theorem list (tidy : w.Tidy) {b : Entry} (free : w.listed b.identity = none)
    (status : b.status = .connecting) (proper : b.Proper) : (w.list b).Tidy := by
  have young {i a} (h : w.listed i = some a) : a ≠ w.made :=
    Nat.ne_of_lt (tidy.lt_made (tidy.status_of_listed h))
  constructor
  · intro a
    by_cases ha : a = w.made
    · simp [World.list, World.status, put, ha, status]
    · simp only [World.list, World.status, put, ha, if_false]
      by_cases hi : (w.entries a).identity = b.identity
      · have gone : w.listed (w.entries a).identity ≠ some a := by rw [hi, free]; simp
        have := (not_congr (tidy.listed_iff a)).mp gone
        simp only [hi, if_true]
        simpa [World.status, Ne.symm ha] using this
      · simpa [hi, World.status] using tidy.listed_iff a
  · intro i a h
    by_cases hi : i = b.identity
    · have : w.made = a := by simpa [World.list, put, hi] using h
      simp [World.list, put, this, hi]
    · have old : w.listed i = some a := by simpa [World.list, put, hi] using h
      simpa [World.list, put, young old] using tidy.identity old
  · intro a h
    have later : w.made < a := h
    simpa [World.list, put, Nat.ne_of_gt later] using tidy.unmade (Nat.le_of_lt later)
  · intro a
    by_cases ha : a = w.made
    · simpa [World.list, put, ha] using proper
    · simpa [World.list, put, ha] using tidy.proper a

end Tidy

def IsOpening (w : World) (t : TaskId) (e : EntryId) (k : CallId) : Prop :=
  ∃ c, w.tasks t = some (.opening c e k)

structure Manned (w : World) : Prop where
  unspawned {t : TaskId} : w.spawned ≤ t → w.tasks t = none
  made {t : TaskId} {e : EntryId} {k : CallId} : w.IsOpening t e k → e < w.made
  /-- The call that an opener waits for is one for the identity of its bridge. -/
  called {t : TaskId} {e : EntryId} {k : CallId} : w.IsOpening t e k →
    ∃ c, w.calls[k]? = some c ∧ c.identity = (w.entries e).identity
  /-- Nobody but its opener gives a bridge a session or a failure. -/
  bare {t : TaskId} {e : EntryId} {k : CallId} : w.IsOpening t e k →
    (w.entries e).session = none ∧ (w.entries e).failure = none
  alone {t u : TaskId} {e : EntryId} {k l : CallId} :
    w.IsOpening t e k → w.IsOpening u e l → t = u
  opener {e : EntryId} : w.status e = .connecting → ∃ t k, w.IsOpening t e k

variable {t u : TaskId} {k : CallId} {q : Phase}
  {rs : List Directory.Report}

theorem isOpening_proceed (idle : q.Idle) :
    (w.proceed t q rs).IsOpening u e k ↔ u ≠ t ∧ w.IsOpening u e k := by
  by_cases hu : u = t
  · subst u
    constructor
    · rintro ⟨c, h⟩
      exact absurd (by simpa [proceed, put] using h) (idle.ne c e k)
    · exact fun h => absurd rfl h.1
  · simp [IsOpening, proceed, put, hu]

theorem isOpening_spawn (idle : q.Idle) (free : w.tasks w.spawned = none) :
    (w.spawn q).IsOpening u e k ↔ w.IsOpening u e k := by
  by_cases hu : u = w.spawned
  · subst u
    constructor
    · rintro ⟨c, h⟩
      exact absurd (by simpa [spawn, put] using h) (idle.ne c e k)
    · rintro ⟨c, h⟩
      simp [free] at h
  · simp [IsOpening, spawn, put, hu]

namespace Manned

theorem lt_spawned (manned : w.Manned) {p : Phase} (h : w.tasks t = some p) : t < w.spawned := by
  by_cases ht : t < w.spawned
  · exact ht
  · rw [manned.unspawned (Nat.le_of_not_lt ht)] at h
    cases h

/-- The invariant survives where no opener comes and bridges that stay connecting keep theirs. -/
theorem of_openers (manned : w.Manned) (unspawned : ∀ t, v.spawned ≤ t → v.tasks t = none)
    (made : v.made = w.made) (calls : v.calls = w.calls)
    (old : ∀ t e k, v.IsOpening t e k → w.IsOpening t e k)
    (same : ∀ t e k, v.IsOpening t e k → (v.entries e).identity = (w.entries e).identity ∧
      (v.entries e).session = (w.entries e).session ∧
      (v.entries e).failure = (w.entries e).failure)
    (kept : ∀ e, v.status e = .connecting → w.status e = .connecting ∧
      ∀ t k, w.IsOpening t e k → v.IsOpening t e k) : v.Manned := by
  constructor
  · intro t h
    exact unspawned t h
  · intro t e k h
    rw [made]
    exact manned.made (old t e k h)
  · intro t e k h
    rw [calls, (same t e k h).1]
    exact manned.called (old t e k h)
  · intro t e k h
    obtain ⟨-, session, failure⟩ := same t e k h
    rw [session, failure]
    exact manned.bare (old t e k h)
  · intro t u e k l ht hu
    exact manned.alone (old t e k ht) (old u e l hu)
  · intro e h
    obtain ⟨connecting, keeps⟩ := kept e h
    obtain ⟨t, k, opener⟩ := manned.opener connecting
    exact ⟨t, k, keeps t k opener⟩

/-- A task goes on and opens nothing. Bridges that others open are left alone, and a bridge that it
opened is not connecting any more. -/
theorem proceed (manned : w.Manned) {p : Phase} (ht : w.tasks t = some p) (idle : q.Idle)
    (tasks : v.tasks = w.tasks) (spawned : v.spawned = w.spawned) (made : v.made = w.made)
    (calls : v.calls = w.calls)
    (same : ∀ u a k, u ≠ t → w.IsOpening u a k → (v.entries a).identity = (w.entries a).identity ∧
      (v.entries a).session = (w.entries a).session ∧
      (v.entries a).failure = (w.entries a).failure)
    (kept : ∀ a, v.status a = .connecting →
      w.status a = .connecting ∧ ∀ k, ¬ w.IsOpening t a k) :
    (v.proceed t q rs).Manned := by
  have openers {u a k} : (v.proceed t q rs).IsOpening u a k ↔ u ≠ t ∧ w.IsOpening u a k := by
    rw [isOpening_proceed idle]
    simp [IsOpening, tasks]
  apply manned.of_openers
  · intro u hu
    have later : w.spawned ≤ u := by
      have : v.spawned ≤ u := hu
      rwa [spawned] at this
    have other : u ≠ t := Nat.ne_of_gt (Nat.lt_of_lt_of_le (manned.lt_spawned ht) later)
    simpa [World.proceed, put, other, tasks] using manned.unspawned later
  · exact made
  · exact calls
  · intro u a k h
    exact (openers.mp h).2
  · intro u a k h
    exact same u a k (openers.mp h).1 (openers.mp h).2
  · intro a h
    obtain ⟨connecting, other⟩ := kept a h
    refine ⟨connecting, fun u k hu => openers.mpr ⟨?_, hu⟩⟩
    rintro rfl
    exact other k hu

theorem not_isOpening_of_idle {p : Phase} (ht : w.tasks t = some p) (idle : p.Idle) (a : EntryId)
    (k : CallId) : ¬ w.IsOpening t a k := by
  rintro ⟨c, h⟩
  exact idle.ne c a k (Option.some.inj (ht.symm.trans h))

/-- An opener goes on and has settled its bridge. -/
theorem settle (manned : w.Manned) (ht : w.IsOpening t e k) (idle : q.Idle)
    (tasks : v.tasks = w.tasks) (spawned : v.spawned = w.spawned) (made : v.made = w.made)
    (calls : v.calls = w.calls) (same : ∀ a, a ≠ e → v.entries a = w.entries a)
    (settled : v.status e ≠ .connecting) : (v.proceed t q rs).Manned := by
  obtain ⟨c, task⟩ := ht
  apply manned.proceed task idle tasks spawned made calls
  · intro u a l hu h
    have other : a ≠ e := by
      rintro rfl
      exact hu (manned.alone h ⟨c, task⟩)
    rw [same a other]
    exact ⟨rfl, rfl, rfl⟩
  · intro a h
    have other : a ≠ e := by
      rintro rfl
      exact settled h
    rw [status, same a other] at h
    refine ⟨h, ?_⟩
    rintro l ⟨d, opens⟩
    have := Option.some.inj (task.symm.trans opens)
    simp only [Phase.opening.injEq] at this
    exact other this.2.1.symm

theorem spawn (manned : w.Manned) (idle : q.Idle) : (w.spawn q).Manned := by
  have free := manned.unspawned (Nat.le_refl _)
  apply manned.of_openers
  · intro t ht
    have later : w.spawned < t := ht
    simpa [World.spawn, put, Nat.ne_of_gt later] using manned.unspawned (Nat.le_of_lt later)
  · rfl
  · rfl
  · intro t e k h
    exact (isOpening_spawn idle free).mp h
  · intro t e k _
    exact ⟨rfl, rfl, rfl⟩
  · intro e h
    exact ⟨h, fun t k opener => (isOpening_spawn idle free).mpr opener⟩

/-- A bridge that is new has one opener, and no other bridge gets one. -/
theorem place (manned : w.Manned) {c : Caller} {i : Identity} {r : Request}
    (ht : w.tasks t = some (.ensure c i (some r))) :
    (((w.list (.placeholder i r)).call ⟨i, r.credentials, r.rule⟩).proceed t
      (.opening c w.made w.calls.length) []).Manned := by
  have before := not_isOpening_of_idle ht trivial
  have openers {u a k} (h : (((w.list (.placeholder i r)).call ⟨i, r.credentials, r.rule⟩).proceed t
      (.opening c w.made w.calls.length) []).IsOpening u a k) :
      (u = t ∧ a = w.made ∧ k = w.calls.length) ∨ (u ≠ t ∧ a ≠ w.made ∧ w.IsOpening u a k) := by
    obtain ⟨d, h⟩ := h
    by_cases hu : u = t
    · have := by simpa [World.proceed, put, hu] using h
      exact Or.inl ⟨hu, this.2.1.symm, this.2.2.symm⟩
    · have opens : w.IsOpening u a k :=
        ⟨d, by simpa [World.proceed, World.call, World.list, put, hu] using h⟩
      exact Or.inr ⟨hu, Nat.ne_of_lt (manned.made opens), opens⟩
  constructor
  · intro u hu
    have later : w.spawned ≤ u := hu
    have other : u ≠ t := Nat.ne_of_gt (Nat.lt_of_lt_of_le (manned.lt_spawned ht) later)
    simpa [World.proceed, put, other, World.list, World.call] using manned.unspawned later
  · intro u a k h
    rcases openers h with ⟨-, rfl, -⟩ | ⟨-, -, old⟩
    · exact Nat.lt_succ_self _
    · exact Nat.lt_succ_of_lt (manned.made old)
  · intro u a k h
    rcases openers h with ⟨-, rfl, rfl⟩ | ⟨-, young, old⟩
    · exact ⟨⟨i, r.credentials, r.rule⟩, by simp [World.proceed, World.call, World.list],
        by simp [World.proceed, World.call, World.list, put, Entry.placeholder]⟩
    · obtain ⟨q, call, identity⟩ := manned.called old
      refine ⟨q, ?_, ?_⟩
      · have bound := (List.getElem?_eq_some_iff.mp call).1
        simpa [World.proceed, World.call, World.list, List.getElem?_append_left bound] using call
      · simpa [World.proceed, World.call, World.list, put, young] using identity
  · intro u a k h
    rcases openers h with ⟨-, rfl, -⟩ | ⟨-, young, old⟩
    · simp [World.proceed, World.call, World.list, put, Entry.placeholder]
    · simpa [World.proceed, World.call, World.list, put, young] using manned.bare old
  · intro u v a k l hu hv
    rcases openers hu with ⟨rfl, ha, -⟩ | ⟨hu, ha, old⟩
    · rcases openers hv with ⟨rfl, -, -⟩ | ⟨-, young, -⟩
      · rfl
      · exact absurd ha young
    · rcases openers hv with ⟨-, young, -⟩ | ⟨-, -, old'⟩
      · exact absurd young ha
      · exact manned.alone old old'
  · intro a h
    by_cases ha : a = w.made
    · exact ⟨t, w.calls.length, c, by simp [World.proceed, put, ha]⟩
    · obtain ⟨u, k, d, opens⟩ := manned.opener
        (by simpa [status, World.proceed, World.call, World.list, put, ha] using h)
      have other : u ≠ t := by
        rintro rfl
        exact before a k ⟨d, opens⟩
      exact ⟨u, k, d, by simpa [World.proceed, World.call, World.list, put, other] using opens⟩

end Manned

/-- A task that is there and one that comes do not meet. -/
theorem proceed_spawn (h : t < w.spawned) (p : Phase) :
    (w.spawn p).proceed t q rs = (w.proceed t q rs).spawn p := by
  have apart : t ≠ w.spawned := Nat.ne_of_lt h
  have same : put (put w.tasks w.spawned (some p)) t (some q) =
      put (put w.tasks t (some q)) w.spawned (some p) := by
    funext u
    by_cases hu : u = t
    · simp [put, hu, apart]
    · simp [put, hu]
  simp [spawn, proceed, same]

end World

structure World.Sound (w : World) : Prop where
  tidy : w.Tidy
  manned : w.Manned

namespace Move

variable {w v : World} {x : Event}

theorem tidy (h : Move w x v) (sound : w.Sound) : v.Tidy := by
  obtain ⟨tidy, manned⟩ := sound
  cases h with
  | rest | start | answer | listen | session | reply | abort | pass => exact tidy.of_eq rfl rfl rfl
  | cancel ht =>
    have rolled := tidy.rollBack (manned.made ⟨_, ht⟩) (manned.bare ⟨_, ht⟩).1 "open cancelled"
    exact rolled.of_eq rfl rfl rfl
  | ends ht h =>
    rw [World.tells_eq]
    exact (tidy.retire _).of_eq rfl rfl rfl
  | closed ht =>
    rw [World.sessionEvent_eq]
    exact tidy.of_eq rfl rfl rfl
  | @unlist t m c i r e ht hi hs =>
    exact absurd hs (tidy.status_of_listed hi)
  | @place t m c i r ht hi hr =>
    have listed := tidy.list (b := .placeholder i r) hi rfl ⟨rfl, rfl⟩
    exact listed.of_eq rfl rfl rfl
  | @fail t m c e k f ht ha =>
    have rolled := tidy.rollBack (manned.made ⟨_, ht⟩) (manned.bare ⟨_, ht⟩).1 f.message
    exact rolled.of_eq rfl rfl rfl
  | @commit t m c e k name alive ht ha here =>
    rw [World.received_eq]
    exact (tidy.attach here w.opened).of_eq rfl rfl rfl
  | discard ht ha gone =>
    rw [World.received_eq]
    have failed := tidy.fail (manned.made ⟨_, ht⟩) gone (manned.bare ⟨_, ht⟩).1
      "removed while connecting"
    exact failed.of_eq rfl rfl rfl

theorem manned (h : Move w x v) (sound : w.Sound) : v.Manned := by
  obtain ⟨tidy, manned⟩ := sound
  have untouched {t p} (ht : w.tasks t = some p) (idle : p.Idle) (a : EntryId)
      (ha : w.status a = .connecting) :
      w.status a = .connecting ∧ ∀ k, ¬ w.IsOpening t a k :=
    ⟨ha, World.Manned.not_isOpening_of_idle ht idle a⟩
  cases h with
  | rest => exact manned
  | answer | listen | session =>
    exact manned.of_openers (fun _ => manned.unspawned) rfl rfl (fun _ _ _ => id)
      (fun _ _ _ _ => ⟨rfl, rfl, rfl⟩) (fun _ ha => ⟨ha, fun _ _ => id⟩)
  | start o => exact manned.spawn o.start_idle
  | reply ht =>
    exact manned.proceed ht trivial rfl rfl rfl rfl (fun _ _ _ _ _ => ⟨rfl, rfl, rfl⟩)
      (untouched ht trivial)
  | abort ht stops =>
    exact manned.proceed ht trivial rfl rfl rfl rfl (fun _ _ _ _ _ => ⟨rfl, rfl, rfl⟩)
      (untouched ht (Phase.stops_idle stops))
  | pass ht h =>
    exact manned.proceed ht h.idle.2 rfl rfl rfl rfl (fun _ _ _ _ _ => ⟨rfl, rfl, rfl⟩)
      (untouched ht h.idle.1)
  | @ends t m e p s q ht h =>
    rw [World.tells_retire]
    refine manned.proceed ht h.idle.2 rfl rfl rfl rfl ?_ ?_
    · intro u a k _ _
      rw [World.retire_entries]
      exact ⟨rfl, rfl, rfl⟩
    · intro a ha
      have retired : (w.retire e).status a = .connecting := ha
      rw [World.retire_status] at retired
      split at retired
      · cases retired
      · exact untouched ht h.idle.1 a retired
  | @closed t m e s q ht =>
    rw [World.sessionEvent_eq]
    exact manned.proceed ht (q.after_idle w e) rfl rfl rfl rfl (fun _ _ _ _ _ => ⟨rfl, rfl, rfl⟩)
      (untouched ht trivial)
  | @unlist t m c i r e ht hi hs => exact absurd hs (tidy.status_of_listed hi)
  | place ht hi hr => exact manned.place ht
  | @cancel t c e k ht =>
    have left := World.rollBack_eq w e "open cancelled"
    exact manned.settle ⟨c, ht⟩ trivial (by rw [left]) (by rw [left]) (by rw [left]) (by rw [left])
      (fun a ha => by rw [left]; simp [put, ha]) (by rw [left]; simp [World.status, put])
  | @fail t m c e k f ht ha =>
    have left := World.rollBack_eq w e f.message
    exact manned.settle ⟨c, ht⟩ (c.after_hasResult _).idle (by rw [left]) (by rw [left])
      (by rw [left]) (by rw [left]) (fun a ha => by rw [left]; simp [put, ha])
      (by rw [left]; simp [World.status, put])
  | @commit t m c e k name alive ht ha here =>
    rw [World.proceed_spawn, World.received_eq]
    · refine World.Manned.spawn ?_ trivial
      exact manned.settle ⟨c, ht⟩ (c.after_hasResult _).idle rfl rfl rfl rfl
        (fun a ha => by simp [World.attach, World.setEntry, put, ha])
        (by simp [World.attach, World.setEntry, World.status, put])
    · rw [World.received_eq]
      exact manned.lt_spawned ht
  | @discard t m c e k name alive ht ha gone =>
    rw [World.received_eq]
    exact manned.settle ⟨c, ht⟩ trivial rfl rfl rfl rfl
      (fun a ha => by simp [World.fail, World.tell, World.setEntry, put, ha])
      (by simp [World.fail, World.tell, World.setEntry, World.status, put])

theorem sound (h : Move w x v) (sound : w.Sound) : v.Sound :=
  ⟨h.tidy sound, h.manned sound⟩

end Move

namespace World

variable {w : World}

theorem sound_empty : World.Sound {} := by
  constructor
  · constructor
    · intro e
      simp [status, Entry.blank]
    · intro i e h
      cases h
    · intro e _
      rfl
    · intro e
      exact Or.inl rfl
  · constructor
    · intro t _
      rfl
    · rintro t e k ⟨c, h⟩
      cases h
    · rintro t e k ⟨c, h⟩
      cases h
    · rintro t e k ⟨c, h⟩
      cases h
    · rintro t u e k l ⟨c, h⟩
      cases h
    · intro e h
      cases h

theorem run_append (w : World) (xs ys : List Event) : w.run (xs ++ ys) = (w.run xs).run ys :=
  List.foldl_append

theorem run_concat (xs : List Event) (x : Event) : run {} (xs ++ [x]) = (run {} xs).apply x :=
  run_append {} xs [x]

theorem task_stays_run {t : TaskId} {p : Phase} (ht : w.tasks t = some p) (xs : List Event) :
    ∃ q, (w.run xs).tasks t = some q := by
  induction xs generalizing w p with
  | nil => exact ⟨p, ht⟩
  | cons x xs ih =>
    obtain ⟨q, hq⟩ := (apply_move w x).task_stays ht
    exact ih hq

/-- What every event keeps, every run keeps. -/
theorem run_keeps {P : World → Prop} (step : ∀ w x, P w → P (w.apply x)) (w : World) (h : P w)
    (xs : List Event) : P (w.run xs) := by
  induction xs generalizing w with
  | nil => exact h
  | cons x xs ih => exact ih (w.apply x) (step w x h)

theorem Sound.apply (sound : w.Sound) (x : Event) : (w.apply x).Sound :=
  (apply_move w x).sound sound

theorem Sound.run (sound : w.Sound) (xs : List Event) : (w.run xs).Sound :=
  run_keeps (fun _ x h => h.apply x) w sound xs

/-- The worlds that runs lead to are sound. -/
theorem sound_run (xs : List Event) : (World.run {} xs).Sound :=
  sound_empty.run xs

end World
end BridgeKeeper.Bridge
