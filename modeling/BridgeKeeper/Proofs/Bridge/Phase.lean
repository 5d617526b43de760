import BridgeKeeper.Proofs.Bridge.Move

/-!
# What the phases of tasks are about

A phase may open a bridge, wait for one, or watch a session. What tasks are about changes with their
own steps alone, and hardly ever to something new.
-/
namespace BridgeKeeper.Bridge

namespace Phase

/-- The result of the task is there, though it may still wait for the reply to a report. -/
def HasResult : Phase → Prop
  | reporting .. | done _ => True
  | _ => False

def Idle : Phase → Prop
  | opening .. => False
  | _ => True

def awaited : Phase → Option EntryId
  | joining _ e => some e
  | _ => none

def watched : Phase → Option (EntryId × SessionId)
  | watch e s _ | watching e s _ => some (e, s)
  | _ => none

/-- The bridge whose session a task has told to close, with that session. -/
def closes : Phase → Option (EntryId × SessionId)
  | closing e s _ => some (e, s)
  | _ => none

/-- How many notifications of the session that it watches a task has heard. -/
def heard : Phase → Nat
  | watch _ _ n | watching _ _ n => n
  | _ => 0

theorem Idle.ne {p : Phase} (idle : p.Idle) (c : Caller) (e : EntryId) (k : CallId) :
    p ≠ .opening c e k := by
  rintro rfl
  exact idle

theorem stops_idle {p : Phase} (h : p.stops) : p.Idle := by
  cases p <;> trivial

namespace HasResult

variable {p : Phase}

theorem idle (h : p.HasResult) : p.Idle := by
  cases p <;> trivial

theorem awaited (h : p.HasResult) : p.awaited = none := by
  cases p <;> trivial

theorem watched (h : p.HasResult) : p.watched = none := by
  cases p <;> trivial

theorem closes (h : p.HasResult) : p.closes = none := by
  cases p <;> trivial

end HasResult
end Phase

theorem failedPhase_hasResult (a : Boot.Attempt) (reason : String) :
    (failedPhase a reason).HasResult := by
  rw [failedPhase]
  split <;> trivial

theorem Caller.after_hasResult (c : Caller) (r : Except Error EntryId) : (c.after r).HasResult := by
  cases c with
  | plain => trivial
  | boot a =>
    cases r with
    | ok e => trivial
    | error x => exact failedPhase_hasResult a _

namespace Sequel

variable (q : Sequel) (w : World) (e : EntryId) (s : Option SessionId)

/-- A task that goes on after a session was closed takes off the next bridges, or has its result. -/
theorem after_holds {P : Phase → Prop} (clearing : ∀ is, P (.clearing is))
    (result : ∀ p : Phase, p.HasResult → P p) : P (q.after w e) := by
  cases q with
  | clearing is => exact clearing is
  | discarded c => exact result _ (c.after_hasResult _)
  | removed | disconnected => exact result _ trivial

/-- A task that ends a bridge waits for the session to be closed, or goes on if there is none. -/
theorem upon_holds {P : Phase → Prop} (closing : ∀ u, P (.closing e u q)) (after : P (q.after w e)) :
    P (q.upon w e s) := by
  cases s with
  | some u => exact closing u
  | none => exact after

theorem after_idle : (q.after w e).Idle :=
  q.after_holds w e (fun _ => trivial) fun _ => Phase.HasResult.idle

theorem after_awaited : (q.after w e).awaited = none :=
  q.after_holds w e (P := (·.awaited = none)) (fun _ => rfl) fun _ => Phase.HasResult.awaited

theorem after_watched : (q.after w e).watched = none :=
  q.after_holds w e (P := (·.watched = none)) (fun _ => rfl) fun _ => Phase.HasResult.watched

theorem after_closes : (q.after w e).closes = none :=
  q.after_holds w e (P := (·.closes = none)) (fun _ => rfl) fun _ => Phase.HasResult.closes

theorem upon_idle : (q.upon w e s).Idle :=
  q.upon_holds w e s (fun _ => trivial) (q.after_idle w e)

theorem upon_awaited : (q.upon w e s).awaited = none :=
  q.upon_holds w e s (P := (·.awaited = none)) (fun _ => rfl) (q.after_awaited w e)

theorem upon_watched : (q.upon w e s).watched = none :=
  q.upon_holds w e s (P := (·.watched = none)) (fun _ => rfl) (q.after_watched w e)

variable {q w e s} in
/-- Who ends a bridge waits for nothing but its session to be closed. -/
theorem upon_eq_closing {a : EntryId} {u : SessionId} {r : Sequel}
    (h : q.upon w e s = .closing a u r) : s = some u ∧ a = e ∧ r = q := by
  cases s with
  | some s =>
    cases h
    exact ⟨rfl, rfl, rfl⟩
  | none =>
    have waits := q.after_closes w e
    rw [show q.after w e = .closing a u r from h] at waits
    cases waits

end Sequel

namespace Operation

theorem start_idle (o : Operation) : o.start.Idle := by
  cases o <;> trivial

theorem start_awaited (o : Operation) : o.start.awaited = none := by
  cases o <;> rfl

theorem start_watched (o : Operation) : o.start.watched = none := by
  cases o <;> rfl

theorem start_closes (o : Operation) : o.start.closes = none := by
  cases o <;> rfl

end Operation

namespace Passes

variable {w : World} {p q : Phase} {rs : List Directory.Report}

theorem idle (h : Passes w p q rs) : p.Idle ∧ q.Idle := by
  cases h with
  | ensured | joined => exact ⟨trivial, (Caller.after_hasResult _ _).idle⟩
  | bootFailed => exact ⟨trivial, (failedPhase_hasResult _ _).idle⟩
  | _ => exact ⟨trivial, trivial⟩

/-- A task comes to wait for bridges that are listed only. -/
theorem awaited (h : Passes w p q rs) :
    q.awaited = none ∨ ∃ i e, w.listed i = some e ∧ q.awaited = some e := by
  cases h with
  | ensured | joined => exact Or.inl (Caller.after_hasResult _ _).awaited
  | bootFailed => exact Or.inl (failedPhase_hasResult _ _).awaited
  | join hi hs => exact Or.inr ⟨_, _, hi, rfl⟩
  | _ => exact Or.inl rfl

/-- The only step to a watcher that waits is that of one that has seen its session alive. -/
theorem watched (h : Passes w p q rs) : q.watched = none ∨
    ∃ e s n, p = .watch e s n ∧ q = .watching e s n ∧ w.isAlive s := by
  cases h with
  | ensured | joined => exact Or.inl (Caller.after_hasResult _ _).watched
  | bootFailed => exact Or.inl (failedPhase_hasResult _ _).watched
  | @watch e s n alive => exact Or.inr ⟨e, s, n, rfl, rfl, alive⟩
  | _ => exact Or.inl rfl

theorem closes (h : Passes w p q rs) : q.closes = none := by
  cases h with
  | ensured | joined => exact (Caller.after_hasResult _ _).closes
  | bootFailed => exact (failedPhase_hasResult _ _).closes
  | _ => rfl

end Passes

namespace Ends

variable {w : World} {e : EntryId} {p q : Phase} {s : Option SessionId}

theorem idle (h : Ends w e p s q) : p.Idle ∧ q.Idle := by
  cases h with
  | remove | clear | disconnect | settled => exact ⟨trivial, Sequel.upon_idle _ _ _ _⟩
  | _ => exact ⟨trivial, trivial⟩

theorem awaited (h : Ends w e p s q) : q.awaited = none := by
  cases h with
  | remove | clear | disconnect | settled => exact Sequel.upon_awaited _ _ _ _
  | _ => rfl

theorem watched (h : Ends w e p s q) : q.watched = none := by
  cases h with
  | remove | clear | disconnect | settled => exact Sequel.upon_watched _ _ _ _
  | _ => rfl

/-- Who ends a bridge to have its session closed goes on when that is done, and tells nobody. -/
theorem closing {a : EntryId} {u : SessionId} {r : Sequel} (h : Ends w e p s (.closing a u r)) :
    s = some u ∧ a = e ∧ ∀ c, r ≠ .discarded c := by
  generalize upon : Phase.closing a u r = q at h
  cases h with
  | remove | clear | disconnect | settled =>
    obtain ⟨told, same, rfl⟩ := Sequel.upon_eq_closing upon.symm
    exact ⟨told, same, fun c => nofun⟩
  | _ => cases upon

/-- The session that is told to close is the one of the bridge. -/
theorem session (h : Ends w e p s q) {u : SessionId} (hu : s = some u) :
    (w.entries e).session = some u := by
  cases h with
  | remove | clear => exact (World.liveSession_eq_some_iff.mp hu).1
  | disconnect | settled => exact hu
  | _ => cases hu

end Ends

end BridgeKeeper.Bridge
