import BridgeKeeper.Proofs.Bridge.Closing
import BridgeKeeper.Proofs.Bridge.Verdict

/-!
# Late tasks

A bridge that is off the list may still have an opener, watchers and waiters, and meanwhile its
identity may have another bridge. Whatever a late task does then, it touches its own bridge and the
session of that bridge, and nothing else.
-/
namespace BridgeKeeper.Bridge

/-- The bridge that a task is about: it opens it, waits for it, ends it, closes its session or
watches it. -/
def Phase.about : Phase → Option EntryId
  | opening _ e _ | joining _ e | settling e | disconnecting e | closing e _ _ => some e
  | watch e _ _ | watching e _ _ => some e
  | _ => none

namespace World

variable {w v : World} {a e : EntryId} {s u : SessionId}

/-! ## What happens to sessions on their own -/

/-- What happens to sessions on their own during an event. A step has time for it only where it
takes the session that the transport delivered. -/
def meanwhile (w : World) : Event → List SessionEvent
  | .session x => [x]
  | .run t m =>
    match w.tasks t with
    | some (.opening _ _ k) =>
      match w.answers k with
      | some (.session ..) => m.delivered ++ m.subscribed
      | _ => []
    | _ => []
  | _ => []

/-- Events make the same of a session in two worlds that agree about it. -/
theorem sessionEvents_agree (same : v.sessions u = w.sessions u) (inV : u < v.opened)
    (inW : u < w.opened) (ys : List SessionEvent) :
    (v.sessionEvents ys).sessions u = (w.sessionEvents ys).sessions u := by
  induction ys generalizing v w with
  | nil => exact same
  | cons y ys ih =>
    apply ih
    · simp only [sessions_sessionEvent, same, inV, inW]
    · rwa [opened_sessionEvent]
    · rwa [opened_sessionEvent]

/-- A session that no event is about stays as it is. -/
theorem sessionEvents_other (ys : List SessionEvent) (other : ∀ y ∈ ys, y.session ≠ u) :
    (w.sessionEvents ys).sessions u = w.sessions u := by
  induction ys generalizing w with
  | nil => rfl
  | cons y ys ih =>
    obtain ⟨first, rest⟩ := List.forall_mem_cons.mp other
    have here : (w.sessionEvent y).sessions u = w.sessions u := by
      rw [sessions_sessionEvent, if_neg fun h => first h.1]
    exact (ih rest).trans here

/-- An old session fares as it would without the one that is delivered. -/
theorem sessions_received (old : u < w.opened) (k : CallId) (m : Meanwhile) (name : String)
    (alive : Bool) : (w.received k m name alive).sessions u =
      (w.sessionEvents (m.delivered ++ m.subscribed)).sessions u := by
  have delivered := sessions_deliver (Nat.ne_of_lt old) name k alive
  have agree := sessionEvents_agree delivered (Nat.lt_succ_of_lt old) old
    (m.delivered ++ m.subscribed)
  rw [← agree, sessionEvents, List.foldl_append]
  rfl

/-! ## What is left alone -/

/-- Between two worlds the list, the calls of listeners and all bridges but one stay as they are,
and so do the sessions of those bridges, but for what happens to them on their own. -/
structure Spares (w v : World) (e : EntryId) (ys : List SessionEvent) : Prop where
  listed : v.listed = w.listed
  notices : v.notices = w.notices
  entries {a : EntryId} : a ≠ e → v.entries a = w.entries a
  sessions {a : EntryId} {u : SessionId} : a ≠ e → (w.entries a).session = some u →
    v.sessions u = (w.sessionEvents ys).sessions u

namespace Spares

theorem refl (w : World) (e : EntryId) : w.Spares w e [] :=
  ⟨rfl, rfl, fun _ => rfl, fun _ _ => rfl⟩

theorem proceed {ys : List SessionEvent} (h : w.Spares v e ys) (t : TaskId) (q : Phase)
    (rs : List Directory.Report) : w.Spares (v.proceed t q rs) e ys :=
  ⟨h.listed, h.notices, h.entries, h.sessions⟩

end Spares

theorem spares_rollBack (gone : w.isListed e = false) (reason : String) :
    w.Spares (w.rollBack e reason) e [] := by
  rw [rollBack_eq, unlist_of_not_listed gone]
  exact ⟨rfl, rfl, fun other => put_other _ _ other, fun _ _ => rfl⟩

/-- A session that belongs to one bridge at most is none of the others' concern. -/
theorem spares_put (only : ∀ a, (w.entries a).session = some s → a = e) (x : Session) :
    w.Spares { w with sessions := put w.sessions s x } e [] := by
  refine ⟨rfl, rfl, fun _ => rfl, ?_⟩
  intro a u other session
  have different : u ≠ s := by
    rintro rfl
    exact other (only a session)
  exact put_other _ _ different

/-- A bridge that is off the list is not ended again, and telling its session to close touches no
other. -/
theorem spares_tells (apart : w.Apart) (gone : w.isListed e = false) :
    w.Spares ((w.retire e).tells (w.entries e).session) e [] := by
  rw [retire_of_not_listed gone]
  cases own : (w.entries e).session with
  | none => exact .refl w e
  | some s => exact spares_put (fun a session => apart a e s session own) _

/-- Nor does the end of the close. -/
theorem Closes.spares {z : Sequel} (closes : w.Closes e s z) :
    w.Spares (w.sessionEvent (.drop s)) e [] := by
  rw [sessionEvent, if_pos (show (SessionEvent.drop s).session < w.opened from closes.opened)]
  exact spares_put (fun _ => closes.only) _

theorem spares_discard (linked : w.Linked) (k : CallId) (m : Meanwhile) (name : String)
    (alive : Bool) :
    w.Spares (((w.received k m name alive).fail e "removed while connecting").tell w.opened) e
      (m.delivered ++ m.subscribed) := by
  have frame := received_eq w k m name alive
  refine ⟨by rw [frame]; rfl, by rw [frame]; rfl, ?_, ?_⟩
  · intro a other
    rw [frame]
    exact put_other _ _ other
  · intro a u _ session
    have old := (linked.origin session).1
    rw [← sessions_received old k m name alive]
    exact put_other _ _ (Nat.ne_of_lt old)

/-- A step of a task that is about a bridge off the list leaves the others alone. -/
theorem spares_step (regular : w.Regular) (gone : w.isListed e = false) {t : TaskId} {p : Phase}
    (ht : w.tasks t = some p) (about : p.about = some e) (m : Meanwhile) :
    w.Spares (w.step t m) e (w.meanwhile (.run t m)) := by
  obtain ⟨-, linked, apart, closing⟩ := regular
  by_cases ready : w.isReady p
  · have quiet : w.Spares (w.retire e) e [] := by
      rw [retire_of_not_listed gone]
      exact .refl w e
    simp only [step, ht, ready, if_true, meanwhile]
    cases p with
    | opening c a k =>
      obtain rfl : a = e := Option.some.inj about
      cases ha : w.answers k with
      | none => simp [isReady, ha] at ready
      | some answer =>
        simp only [advance, ha]
        cases answer with
        | failure x =>
          rw [settleOpen_failure]
          exact (spares_rollBack gone x.message).proceed _ _ _
        | session name alive =>
          rw [settleOpen_of_not_listed gone]
          exact (spares_discard linked k m name alive).proceed _ _ _
    | joining c a =>
      simp only [advance, joined, conclude_eq]
      exact (Spares.refl w e).proceed _ _ _
    | settling a =>
      simp only [advance, finish_eq]
      exact (Spares.refl w e).proceed _ _ _
    | disconnecting a =>
      obtain rfl : a = e := Option.some.inj about
      simp only [advance, disconnect_eq]
      exact (spares_tells apart gone).proceed _ _ _
    | closing a s z =>
      obtain rfl : a = e := Option.some.inj about
      simp only [advance, closed_eq]
      exact (closing t a s z ht).spares.proceed _ _ _
    | watch a s heard =>
      obtain rfl : a = e := Option.some.inj about
      simp only [advance, setTask_eq, finish_eq]
      split
      · exact (Spares.refl w a).proceed _ _ _
      · exact quiet.proceed _ _ _
    | watching a s heard =>
      obtain rfl : a = e := Option.some.inj about
      simp only [advance, finish_eq]
      exact quiet.proceed _ _ _
    | _ => cases about
  · -- Only an opener that was answered meets events of sessions, and that one is ready.
    have none : w.meanwhile (.run t m) = [] := by
      simp only [meanwhile, ht]
      split
      · next same =>
        rw [Option.some.inj same] at ready
        split
        · next answered => simp [isReady, answered] at ready
        · rfl
      · rfl
    rw [none]
    simp only [step, ht, ready]
    exact .refl w e

theorem spares_abort (gone : w.isListed e = false) {t : TaskId} {p : Phase}
    (ht : w.tasks t = some p) (about : p.about = some e) : w.Spares (w.abort t) e [] := by
  cases p with
  | opening c a k =>
    obtain rfl : a = e := Option.some.inj about
    simp only [abort, ht, setTask_eq]
    exact (spares_rollBack gone _).proceed _ _ _
  | joining | settling | disconnecting | closing =>
    simp only [abort, ht, setTask_eq]
    exact (Spares.refl w e).proceed _ _ _
  | watch | watching =>
    simp only [abort, ht]
    exact .refl w e
  | _ => cases about

theorem spares_replied {t : TaskId} {p : Phase} (ht : w.tasks t = some p)
    (about : p.about = some e) : w.Spares (w.replied t) e [] := by
  rw [replied]
  split
  · next reporting =>
    rw [reporting] at ht
    cases ht
    cases about
  · exact .refl w e

/-- In every world that a run leads to, an event that lets a task go on or cancels it, where the
task is about a bridge that is not listed, leaves the list, the calls of listeners and every other
bridge as they were. The sessions of the other bridges meet what happens to them on their own during
the event, and one to which nothing happens stays as it was. -/
theorem late_tasks_spare_others (xs : List Event) {t : TaskId} {p : Phase} {e : EntryId} {x : Event}
    (ht : (World.run {} xs).tasks t = some p) (about : p.about = some e)
    (gone : (World.run {} xs).isListed e = false) (late : x.task = some t) :
    (World.run {} xs).Spares (World.run {} (xs ++ [x])) e ((World.run {} xs).meanwhile x) ∧
      ∀ a u, a ≠ e → ((World.run {} xs).entries a).session = some u →
        (∀ y ∈ (World.run {} xs).meanwhile x, y.session ≠ u) →
        (World.run {} (xs ++ [x])).sessions u = (World.run {} xs).sessions u := by
  have spared : (World.run {} xs).Spares (World.run {} (xs ++ [x])) e
      ((World.run {} xs).meanwhile x) := by
    rw [run_append]
    cases x with
    | run =>
      cases late
      exact spares_step (regular_run xs) gone ht about _
    | abort =>
      cases late
      exact spares_abort gone ht about
    | reply =>
      cases late
      exact spares_replied ht about
    | start | answer | session | listen => cases late
  refine ⟨spared, ?_⟩
  intro a u other session calm
  exact (spared.sessions other session).trans (sessionEvents_other _ calm)

/-- A bridge was removed while it was connecting, and its identity has another one by now. The first
opener is given a session, which drops at once, and finds its bridge gone. -/
def overtaken : List Event :=
  replaced ++
    [.run 2 {}, .answer 1 (.session "s" true), .run 2 {}, .answer 0 (.session "late" true)]

theorem late_tasks_spare_others_overtaken :
    (World.run {} overtaken).tasks 0 = some (.opening .plain 0 0) ∧
      (World.run {} overtaken).isListed 0 = false ∧
      (World.run {} (overtaken ++ [.run 0 { subscribed := [.drop 1] }])).listed ⟨"a"⟩ = some 1 ∧
      (World.run {} (overtaken ++ [.run 0 { subscribed := [.drop 1] }])).status 1 = .connected ∧
      (World.run {} (overtaken ++ [.run 0 { subscribed := [.drop 1] }])).isAlive 0 := by
  have opener : (World.run {} overtaken).tasks 0 = some (.opening .plain 0 0) := rfl
  have gone : (World.run {} overtaken).isListed 0 = false := by decide
  obtain ⟨spared, calm⟩ := late_tasks_spare_others overtaken
    (x := .run 0 { subscribed := [.drop 1] }) opener rfl gone rfl
  refine ⟨opener, gone, ?_, ?_, ?_⟩
  · rw [spared.listed]
    decide
  · rw [status, spared.entries (a := 1) (by decide)]
    decide
  · rw [isAlive, calm 1 0 (by decide) (by decide) (by decide)]
    decide

end World
end BridgeKeeper.Bridge
