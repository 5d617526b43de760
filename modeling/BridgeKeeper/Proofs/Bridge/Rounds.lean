import BridgeKeeper.Proofs.Bridge.Clearing
import Mathlib.Data.List.Nodup
import Mathlib.Data.List.Perm.Subperm

/-!
# The search for a bridge ends

A task that looks for the bridge of an identity goes round until it has one to share, to wait for or to
open, or is refused. It goes round again only where it has come upon a bridge whose session has died, and
that bridge is off the list by then. So it comes upon no bridge twice, and while no other task goes on
there is nothing left for it to come upon in the second round.
-/
namespace BridgeKeeper.Bridge

def Phase.sought : Phase → Option Identity
  | ensure _ i _ => some i
  | _ => none

def Event.isStepOf (t : TaskId) : Event → Bool
  | run u _ => u = t
  | _ => false

/-- An event that is about no task leaves the list alone, and the tasks that are there. -/
theorem Move.keeps_list {w v : World} {x : Event} {t : TaskId} (h : Move w x v) (none : x.task = none)
    (there : t < w.spawned) : v.listed = w.listed ∧ v.tasks t = w.tasks t := by
  cases h with
  | rest | answer | listen | session => exact ⟨rfl, rfl⟩
  | start => exact ⟨rfl, put_other _ _ (Nat.ne_of_lt there)⟩
  | reply | abort | cancel | pass | ends | closed | unlist | place | fail | commit | discard =>
    cases none

namespace World

variable {w : World} {t : TaskId} {c : Caller} {i : Identity} {r : Option Request} {e : EntryId}
  {m : Meanwhile} {xs : List Event}

theorem keeps_list_run (quiet : ∀ x ∈ xs, x.task = none) (there : t < w.spawned) :
    (w.run xs).listed = w.listed ∧ (w.run xs).tasks t = w.tasks t := by
  induction xs generalizing w with
  | nil => exact ⟨rfl, rfl⟩
  | cons x xs ih =>
    have move := apply_move w x
    obtain ⟨listed, tasks⟩ := move.keeps_list (quiet x List.mem_cons_self) there
    obtain ⟨listedLater, tasksLater⟩ := ih (w := w.apply x)
      (fun y later => quiet y (List.mem_cons_of_mem x later)) (Nat.lt_of_lt_of_le there move.spawned_le)
    exact ⟨listedLater.trans listed, tasksLater.trans tasks⟩

/-! ## One round -/

theorem apply_ensure (ht : w.tasks t = some (.ensure c i r)) (m : Meanwhile) :
    w.apply (.run t m) = w.ensure t c i r := by
  simp [apply, step, ht, isReady, advance]

/-- A round ends the search, or the bridge that it comes upon. -/
theorem Tidy.round (tidy : w.Tidy) (ht : w.tasks t = some (.ensure c i r)) (m : Meanwhile) :
    Exits w t c i r (w.apply (.run t m)) ∨ ∃ e, w.listed i = some e ∧ w.status e = .connected ∧
      w.isConnected e = false ∧ w.apply (.run t m) = w.retire e := by
  rw [apply_ensure ht]
  rcases w.ensure_cases t c i r with exits | ⟨e, here, ⟨connected, dead, went⟩ | ⟨past, -⟩⟩
  · exact Or.inl exits
  · exact Or.inr ⟨e, here, connected, dead, went⟩
  · exact absurd past (tidy.status_of_listed here)

/-- Where nothing is listed, the search ends in this round. -/
theorem Tidy.exits_of_none (tidy : w.Tidy) (ht : w.tasks t = some (.ensure c i r))
    (none : w.listed i = none) (m : Meanwhile) : Exits w t c i r (w.apply (.run t m)) := by
  rcases tidy.round ht m with exits | ⟨e, here, -⟩
  · exact exits
  · rw [none] at here
    cases here

end World

/-- Whose search has ended never looks for a bridge again. -/
theorem Exits.past {w v : World} {t : TaskId} {c : Caller} {i : Identity} {r : Option Request}
    (h : Exits w t c i r v) : ∃ p, v.tasks t = some p ∧ ¬ p.MayCall := by
  cases h with
  | returns => exact ⟨_, put_same _ _ _, (c.after_hasResult _).not_mayCall⟩
  | opens | waits => exact ⟨_, put_same _ _ _, id⟩

namespace World

variable {w : World} {t : TaskId} {c : Caller} {i : Identity} {r : Option Request} {e : EntryId}
  {m : Meanwhile} {xs : List Event}

/-! ## All rounds of a run -/

/-- What is listed under the identity that a task looks for, in each of the rounds that it makes. -/
def rounds (w : World) (t : TaskId) : List Event → List (Option EntryId)
  | [] => []
  | x :: xs =>
    (if x.isStepOf t then ((w.tasks t).bind Phase.sought).toList.map w.listed else []) ++
      (w.apply x).rounds t xs

theorem rounds_cons (w : World) (t : TaskId) (x : Event) (xs : List Event) :
    w.rounds t (x :: xs) = (w.apply x).rounds t xs ∨
      ∃ m c i r, x = .run t m ∧ w.tasks t = some (.ensure c i r) ∧
        w.rounds t (x :: xs) = w.listed i :: (w.apply x).rounds t xs := by
  cases x with
  | run u m =>
    by_cases own : u = t
    · subst u
      cases ht : w.tasks t with
      | none => exact Or.inl (by simp [rounds, ht])
      | some p =>
        cases p with
        | ensure c i r =>
          exact Or.inr ⟨m, c, i, r, rfl, rfl, by simp [rounds, Event.isStepOf, ht, Phase.sought]⟩
        | _ => exact Or.inl (by simp [rounds, ht, Phase.sought])
    · exact Or.inl (by simp [rounds, Event.isStepOf, own])
  | _ => exact Or.inl rfl

theorem rounds_of_past (past : ¬ w.Still Phase.MayCall t) (xs : List Event) : w.rounds t xs = [] := by
  induction xs generalizing w with
  | nil => rfl
  | cons x xs ih =>
    rcases w.rounds_cons t x xs with same | ⟨m, c, i, r, -, ht, -⟩
    · rw [same]
      exact ih fun later => past (still_of_run left_mayCall [x] later)
    · exact absurd (Or.inr ⟨_, ht, trivial⟩) past

/-- A task comes upon no bridge twice, and upon none that was over before. It finds that there is none at
most once. -/
theorem Sound.rounds_nodup (sound : w.Sound) (t : TaskId) (xs : List Event) :
    (w.rounds t xs).Nodup ∧ ∀ e, some e ∈ w.rounds t xs →
      ¬ (e < w.made ∧ w.status e = .disconnected) ∧ e < (w.run xs).made := by
  induction xs generalizing w with
  | nil =>
    refine ⟨List.nodup_nil, ?_⟩
    intro e there
    cases there
  | cons x xs ih =>
    have after := sound.apply x
    have grown := (apply_move w x).made_le sound
    obtain ⟨distinct, known⟩ := ih after
    have later (e : EntryId) (there : some e ∈ (w.apply x).rounds t xs) :
        ¬ (e < w.made ∧ w.status e = .disconnected) ∧ e < (w.run (x :: xs)).made := by
      obtain ⟨young, made⟩ := known e there
      refine ⟨?_, made⟩
      rintro ⟨old, past⟩
      exact young ⟨Nat.lt_of_lt_of_le old grown, sound.run_disconnected old past [x]⟩
    rcases w.rounds_cons t x xs with same | ⟨m, c, i, r, rfl, ht, split⟩
    · rw [same]
      exact ⟨distinct, later⟩
    · have absent : w.listed i ∉ (w.apply (.run t m)).rounds t xs := by
        rcases sound.tidy.round ht m with exits | ⟨e, here, connected, -, went⟩
        · obtain ⟨p, hp, past⟩ := exits.past
          rw [rounds_of_past (after.not_still hp past) xs]
          exact List.not_mem_nil
        · intro again
          rw [here] at again
          have alive := sound.tidy.status_of_listed here
          have listed := (sound.tidy.isListed_iff e).mpr alive
          refine (known e again).1 ⟨Nat.lt_of_lt_of_le (sound.tidy.lt_made alive) grown, ?_⟩
          rw [went, retire_status, if_pos ⟨listed, rfl⟩]
      rw [split]
      refine ⟨List.nodup_cons.mpr ⟨absent, distinct⟩, ?_⟩
      intro e there
      rcases List.mem_cons.mp there with here | there
      · have alive := sound.tidy.status_of_listed here.symm
        have made := sound.made_le_run (.run t m :: xs)
        exact ⟨fun past => alive past.2, Nat.lt_of_lt_of_le (sound.tidy.lt_made alive) made⟩
      · exact later e there

/-- However others go on, a task makes at most one round more than there are bridges. -/
theorem Sound.length_rounds_le (sound : w.Sound) (t : TaskId) (xs : List Event) :
    (w.rounds t xs).length ≤ (w.run xs).made + 1 := by
  obtain ⟨distinct, known⟩ := sound.rounds_nodup t xs
  have within : w.rounds t xs ⊆ none :: (List.range (w.run xs).made).map some := by
    intro o there
    cases o with
    | none => exact List.mem_cons_self
    | some e =>
      have made := List.mem_range.mpr (known e there).2
      exact List.mem_cons_of_mem none (List.mem_map_of_mem made)
  simpa using (distinct.subperm within).length_le

/-- No bridge that is listed is disconnected, so no round comes upon one. A task that looks for the bridge
of an identity ends its search in one round, or it ends a bridge whose session has died; then it ends its
search in the next round, unless other tasks go on in between. If they do, it still comes upon no bridge
twice. -/
theorem search_ends_in_two_rounds (xs : List Event) (t : TaskId) :
    (∀ i e, (World.run {} xs).listed i = some e → (World.run {} xs).status e ≠ .disconnected) ∧
    (∀ c i r m, (World.run {} xs).tasks t = some (.ensure c i r) →
      Exits (World.run {} xs) t c i r ((World.run {} xs).apply (.run t m)) ∨
      ∃ e, (World.run {} xs).listed i = some e ∧ (World.run {} xs).status e = .connected ∧
        (World.run {} xs).isConnected e = false ∧
        (World.run {} xs).apply (.run t m) = (World.run {} xs).retire e ∧
        ∀ ys m', (∀ y ∈ ys, y.task = none) →
          Exits (World.run {} (xs ++ .run t m :: ys)) t c i r
            ((World.run {} (xs ++ .run t m :: ys)).apply (.run t m'))) ∧
    (World.rounds {} t xs).Nodup ∧ (World.rounds {} t xs).length ≤ (World.run {} xs).made + 1 := by
  have sound := sound_run xs
  refine ⟨fun i e => sound.tidy.status_of_listed, ?_, (sound_empty.rounds_nodup t xs).1,
    sound_empty.length_rounds_le t xs⟩
  intro c i r m ht
  rcases sound.tidy.round ht m with exits | ⟨e, here, connected, dead, went⟩
  · exact Or.inl exits
  · refine Or.inr ⟨e, here, connected, dead, went, fun ys m' quiet => ?_⟩
    have retired : ((World.run {} xs).retire e).Sound := went ▸ sound.apply (.run t m)
    have asks : ((World.run {} xs).retire e).tasks t = some (.ensure c i r) := by
      rw [retire_tasks, ht]
    have reached : World.run {} (xs ++ .run t m :: ys) = ((World.run {} xs).retire e).run ys := by
      rw [run_append, ← went]
      rfl
    obtain ⟨listed, tasks⟩ := keeps_list_run quiet (retired.manned.lt_spawned asks)
    rw [reached]
    exact (retired.run ys).tidy.exits_of_none (tasks.trans asks)
      (by rw [listed, sound.tidy.listed_retire here]) m'

/-- The session of a bridge dies before its watcher looks, and the bridge is asked for. -/
def revived : List Event :=
  [.start (.ensureOpen ⟨"a"⟩ (some sampleRequest)), .run 0 {}, .answer 0 (.session "s" true),
    .run 0 {}, .session (.die 0), .start (.ensureOpen ⟨"a"⟩ (some sampleRequest))]

/-- The second round finds no bridge, though a listener has come and the old session has hung up. -/
theorem search_ends_in_two_rounds_revived :
    World.rounds {} 2 (revived ++ [.run 2 {}, .listen, .session (.hangUp 0), .run 2 {}]) =
        [some 0, none] ∧
      Exits (World.run {} (revived ++ [.run 2 {}, .listen, .session (.hangUp 0)])) 2 .plain ⟨"a"⟩
        (some sampleRequest)
        ((World.run {} (revived ++ [.run 2 {}, .listen, .session (.hangUp 0)])).apply (.run 2 {})) := by
  refine ⟨by decide, ?_⟩
  obtain ⟨-, ends, -⟩ := search_ends_in_two_rounds revived 2
  rcases ends .plain ⟨"a"⟩ (some sampleRequest) {} rfl with exits | ⟨e, -, -, -, -, second⟩
  · obtain ⟨p, hp, past⟩ := exits.past
    have still : ((World.run {} revived).apply (.run 2 {})).tasks 2 =
        some (.ensure .plain ⟨"a"⟩ (some sampleRequest)) := rfl
    obtain rfl := Option.some.inj (still.symm.trans hp)
    exact absurd trivial past
  · exact second [.listen, .session (.hangUp 0)] {} (by decide)

end World
end BridgeKeeper.Bridge
