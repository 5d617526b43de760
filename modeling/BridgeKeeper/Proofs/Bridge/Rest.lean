import BridgeKeeper.Proofs.Bridge.Lifecycle

/-!
# Worlds at rest

A world is at rest when no task can move. Who waits for a bridge then waits for its opener, which
waits for the transport; when the transport has answered all its calls, nobody waits for a bridge.
-/
namespace BridgeKeeper.Bridge

namespace Phase

/-- The bridge that a task waits for until it is not connecting any more. -/
def waitsFor : Phase → Option EntryId
  | joining _ e | settling e | disconnecting e => some e
  | _ => none

/-- The task is over, or it has left the bridges: it waits for a session to end, or for the reply to
a report. -/
def Idles : Phase → Prop
  | watching .. | reporting .. | done _ | aborted => True
  | _ => False

end Phase

namespace World

variable {w : World} {t u : TaskId} {p : Phase} {e : EntryId} {k : CallId}

def AtRest (w : World) : Prop := ∀ t, w.canMove t = false

def InFlight (w : World) (k : CallId) : Prop := w.isAwaited k ∧ w.answers k = none

theorem canMove_eq (ht : w.tasks t = some p) : w.canMove t = w.isReady p := by
  simp [canMove, ht]

/-- Only the tasks that were started are to be looked at. -/
theorem Manned.atRest (manned : w.Manned) (rest : ∀ t < w.spawned, w.canMove t = false) :
    w.AtRest := by
  intro t
  by_cases ht : t < w.spawned
  · exact rest t ht
  · simp [canMove, manned.unspawned (Nat.le_of_not_lt ht)]

/-- What a task that cannot move waits for. -/
theorem waits_of_not_ready (stuck : w.isReady p = false) :
    p.Idles ∨ (∃ e, p.waitsFor = some e) ∨ ∃ c e k, p = .opening c e k := by
  cases p with
  | opening c e k => exact Or.inr (Or.inr ⟨c, e, k, rfl⟩)
  | joining | settling | disconnecting => exact Or.inr (Or.inl ⟨_, rfl⟩)
  | watching | reporting | done | aborted => exact Or.inl trivial
  | _ => simp [isReady] at stuck

/-- Who waits for a bridge can move once that is not connecting. -/
theorem connecting_of_waits (waits : p.waitsFor = some e) (stuck : w.isReady p = false) :
    w.status e = .connecting := by
  cases p with
  | joining | settling | disconnecting =>
    rw [← Option.some.inj waits]
    simpa [isReady] using stuck
  | _ => cases waits

theorem Manned.isAwaited (manned : w.Manned) (opening : w.IsOpening u e k) : w.isAwaited k := by
  obtain ⟨c, hu⟩ := opening
  rw [World.isAwaited, List.any_eq_true]
  exact ⟨u, List.mem_range.mpr (manned.lt_spawned hu), by simp [hu]⟩

/-- An opener that cannot move is inside a call that is not answered. -/
theorem Manned.inFlight (manned : w.Manned) (opening : w.IsOpening u e k)
    (stuck : w.canMove u = false) : w.InFlight k := by
  refine ⟨manned.isAwaited opening, ?_⟩
  obtain ⟨c, hu⟩ := opening
  simpa [canMove_eq hu, isReady] using stuck

/-- Who waits for a bridge and cannot move waits for the one opener of the bridge, and if that
cannot move either, for the transport. -/
theorem Sound.waits_for_opener (sound : w.Sound) (ht : w.tasks t = some p)
    (waits : p.waitsFor = some e) (stuck : w.canMove t = false) :
    w.status e = .connecting ∧ (∃! u, w.Opens u e) ∧
      ∀ u, w.Opens u e → w.canMove u = false → ∃ k, w.IsOpening u e k ∧ w.InFlight k := by
  rw [canMove_eq ht] at stuck
  have connecting := connecting_of_waits waits stuck
  refine ⟨connecting, sound.existsUnique_opens connecting, ?_⟩
  rintro u ⟨k, c, opening, -⟩ still
  exact ⟨k, opening, sound.manned.inFlight opening still⟩

/-- Where nothing can move, only the transport can have left a task among the bridges. -/
theorem Sound.idles_of_atRest (sound : w.Sound) (rest : w.AtRest) (answered : ∀ k, ¬ w.InFlight k)
    (ht : w.tasks t = some p) : p.Idles := by
  have stuck := rest t
  rw [canMove_eq ht] at stuck
  rcases waits_of_not_ready stuck with idles | ⟨e, waits⟩ | ⟨c, e, k, rfl⟩
  · exact idles
  · obtain ⟨-, ⟨u, opens, -⟩, behind⟩ := sound.waits_for_opener ht waits (rest t)
    obtain ⟨k, -, flying⟩ := behind u opens (rest u)
    exact absurd flying (answered k)
  · exact absurd (sound.manned.inFlight ⟨c, ht⟩ (rest t)) (answered k)

/-- In every world that a run leads to, a task that waits for a bridge and cannot move waits for one
that is connecting and has exactly one opener; if that cannot move either, its call of the transport
is not answered yet. In a world at rest in which no call is in flight, no task is among the bridges
any more: each one is over, watches a session or waits for the reply to a report. -/
theorem no_caller_stranded (xs : List Event) :
    (∀ t p e, (World.run {} xs).tasks t = some p → p.waitsFor = some e →
      (World.run {} xs).canMove t = false →
      (World.run {} xs).status e = .connecting ∧ (∃! u, (World.run {} xs).Opens u e) ∧
        ∀ u, (World.run {} xs).Opens u e → (World.run {} xs).canMove u = false →
          ∃ k, (World.run {} xs).IsOpening u e k ∧ (World.run {} xs).InFlight k) ∧
    ((World.run {} xs).AtRest → (∀ k, ¬ (World.run {} xs).InFlight k) →
      ∀ t p, (World.run {} xs).tasks t = some p → p.Idles) := by
  have sound := sound_run xs
  refine ⟨fun t p e ht waits stuck => sound.waits_for_opener ht waits stuck, ?_⟩
  intro rest answered t p ht
  exact sound.idles_of_atRest rest answered ht

/-- One task opens a bridge, another one waits to disconnect it, and a third one to share it. -/
def crowded : List Event :=
  [.start (.ensureOpen ⟨"a"⟩ (some sampleRequest)), .run 0 {}, .start (.disconnect ⟨"a"⟩),
    .run 1 {}, .start (.ensureOpen ⟨"a"⟩ none), .run 2 {}]

/-- While the call is in flight the others wait for the opener; once that is cancelled, all
return. -/
theorem no_caller_stranded_crowded :
    (∃! u, (World.run {} crowded).Opens u 0) ∧
      (∃ k, (World.run {} crowded).IsOpening 0 0 k ∧ (World.run {} crowded).InFlight k) ∧
      ∀ t p, (World.run {} (crowded ++ [.abort 0, .run 1 {}, .run 2 {}])).tasks t = some p →
        p.Idles := by
  have waiting : (World.run {} crowded).tasks 1 = some (.disconnecting 0) := rfl
  have opening : (World.run {} crowded).IsOpening 0 0 0 := ⟨.plain, rfl⟩
  obtain ⟨-, opener, behind⟩ :=
    (no_caller_stranded crowded).1 1 (.disconnecting 0) 0 waiting rfl (by decide)
  have opens : (World.run {} crowded).Opens 0 0 :=
    ⟨0, ⟨⟨"a"⟩, sampleRequest.credentials, none⟩, opening, rfl, rfl⟩
  have stuck : (World.run {} crowded).canMove 0 = false := by decide
  have rest : (World.run {} (crowded ++ [.abort 0, .run 1 {}, .run 2 {}])).AtRest :=
    (sound_run _).manned.atRest (by decide)
  obtain ⟨-, idle⟩ := no_caller_stranded (crowded ++ [.abort 0, .run 1 {}, .run 2 {}])
  refine ⟨opener, behind 0 opens stuck, idle rest ?_⟩
  rintro k ⟨awaited, -⟩
  cases awaited

end World
end BridgeKeeper.Bridge
