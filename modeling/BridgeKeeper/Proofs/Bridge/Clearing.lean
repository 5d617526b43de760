import BridgeKeeper.Proofs.Bridge.Calls

/-!
# Taking all bridges down

Once no task is left that may call the transport, no bridge comes to be listed any more, and a task
that removes the bridges of all identities that it found listed leaves none behind.
-/
namespace BridgeKeeper.Bridge

variable {w v : World} {x : Event} {t : TaskId} {p q : Phase} {e : EntryId} {i : Identity}

/-- What is listed after an event was listed before, or it was just made by a task that may call. -/
theorem Move.listed (h : Move w x v) (sound : w.Sound) (here : v.listed i = some e) :
    w.listed i = some e ∨ e = w.made ∧ ∃ t p, w.tasks t = some p ∧ p.MayCall := by
  have tidy := h.tidy sound
  have alive := tidy.status_of_listed here
  rw [← tidy.identity here]
  have change := h.entry e
  rw [World.status] at alive
  generalize v.entries e = b at change alive
  cases change with
  | kept => exact Or.inl ((sound.tidy.listed_iff e).mpr alive)
  | placed ht hi new => exact Or.inr ⟨new, _, _, ht, trivial⟩
  | connected ht ha listed => exact Or.inl (World.isListed_iff.mp listed)
  | ended | cancelled | failed | discarded => exact absurd rfl alive

def Phase.Serves : Phase → Prop
  | watch .. | watching .. | done _ | aborted => False
  | _ => True

theorem Phase.MayCall.serves (may : p.MayCall) : p.Serves := by
  cases p with
  | watch | watching | done | aborted => exact may.elim
  | _ => trivial

/-- Who serves somebody after an event did so before, or was started by it. -/
theorem TaskChange.serves (h : TaskChange w v t x q) (serves : q.Serves) :
    (t = w.spawned ∧ ∃ o, x = .start o) ∨ ∃ p, w.tasks t = some p ∧ p.Serves := by
  cases h with
  | kept old => exact Or.inr ⟨_, old, serves⟩
  | started new => exact Or.inl ⟨new, _, rfl⟩
  | passed old passes =>
    refine Or.inr ⟨_, old, ?_⟩
    cases passes with
    | watch => exact serves.elim
    | _ => trivial
  | ended old ends =>
    refine Or.inr ⟨_, old, ?_⟩
    cases ends with
    | dead | ended => exact serves.elim
    | _ => trivial
  | closed old | opening old | answered old | discarded old => exact Or.inr ⟨_, old, trivial⟩
  | replied | aborted | watching => exact serves.elim

namespace World

def Quiet (w : World) : Prop := ∀ t p, w.tasks t = some p → ¬ p.MayCall

theorem Quiet.listed (quiet : w.Quiet) (sound : w.Sound) (here : (w.apply x).listed i = some e) :
    w.listed i = some e := by
  rcases (apply_move w x).listed sound here with before | ⟨-, t, p, ht, may⟩
  · exact before
  · exact absurd may (quiet t p ht)

/-- The transport is called by a task that might call, and will not do so again. -/
theorem Sound.calls_apply (sound : w.Sound) (x : Event) :
    (w.apply x).calls = w.calls ∨ ∃ t p c, w.tasks t = some p ∧ p.MayCall ∧
      (w.apply x).calls = w.calls ++ [c] ∧ ∀ q, (w.apply x).tasks t = some q → ¬ q.MayCall := by
  rcases (apply_move w x).places sound with ⟨same, -⟩ | ⟨t, m, c, rfl, places⟩
  · exact Or.inl same
  obtain ⟨caller, r, asking, opening⟩ := places.opening
  refine Or.inr ⟨t, _, c, asking, trivial, places.calls, fun q hq => ?_⟩
  rw [opening] at hq
  exact Option.some.inj hq ▸ id

theorem Tidy.mem_bridges (tidy : w.Tidy) (here : w.listed i = some e) : e ∈ w.bridges := by
  have listed := (tidy.isListed_iff e).mpr (tidy.status_of_listed here)
  rw [bridges, (List.mergeSort_perm _ _).mem_iff, List.mem_filter, List.mem_range]
  exact ⟨tidy.lt_made (tidy.status_of_listed here), listed⟩

/-- Once the bridge of an identity is ended, there is none. -/
theorem Tidy.listed_retire (tidy : w.Tidy) (here : w.listed i = some e) :
    (w.retire e).listed i = none := by
  have listed := (tidy.isListed_iff e).mpr (tidy.status_of_listed here)
  rw [retire_of_listed listed, tidy.identity here]
  exact put_same _ _ _

/-- How a task stands that takes all bridges down: nothing is listed but under the identities that it
has left, and nothing at all once it is over. -/
def Clears (w : World) : Phase → Prop
  | .clear => True
  | .clearing is | .closing _ _ (.clearing is) => ∀ i e, w.listed i = some e → i ∈ is
  | .done .cleared => ∀ i, w.listed i = none
  | _ => False

theorem Clears.mono (clears : w.Clears p)
    (fewer : ∀ {i e}, v.listed i = some e → w.listed i = some e) : v.Clears p := by
  cases p with
  | clear => trivial
  | clearing is => exact fun i e here => clears i e (fewer here)
  | closing a s z =>
    cases z with
    | clearing is => exact fun i e here => clears i e (fewer here)
    | _ => exact clears.elim
  | done r =>
    cases r with
    | cleared =>
      intro i
      cases here : v.listed i with
      | none => rfl
      | some e =>
        have gone := clears i
        rw [fewer here] at gone
        cases gone
    | _ => exact clears.elim
  | _ => exact clears.elim

/-- A task that removes one bridge of many has left its identity, whether it waits or goes on. -/
theorem clears_upon {is : List Identity} (left : ∀ i e, w.listed i = some e → i ∈ is) (v : World)
    (e : EntryId) (s : Option SessionId) : w.Clears ((Sequel.clearing is).upon v e s) := by
  cases s <;> exact left

/-- Unless it is cancelled, such a task goes on as one where no bridge comes to be listed. -/
theorem Sound.clears_apply (sound : w.Sound) (there : t < w.spawned)
    (fewer : ∀ {i e}, (w.apply x).listed i = some e → w.listed i = some e)
    (clears : ∀ p, w.tasks t = some p → w.Clears p) (going : x = .abort t → q ≠ .aborted)
    (ht : (w.apply x).tasks t = some q) : (w.apply x).Clears q := by
  cases (apply_move w x).task ht with
  | kept old => exact (clears q old).mono fewer
  | started new | watching new => exact absurd new (Nat.ne_of_lt there)
  | aborted => exact absurd rfl (going rfl)
  | passed old h =>
    have before := clears _ old
    cases h with
    | clear =>
      intro i e here
      have listed := fewer here
      exact List.mem_map.mpr ⟨e, sound.tidy.mem_bridges listed, sound.tidy.identity listed⟩
    | cleared =>
      have nothing : w.Clears (.done .cleared) := by
        intro i
        cases here : w.listed i with
        | none => rfl
        | some e => cases before i e here
      exact nothing.mono fewer
    | @skip i is free =>
      intro j e here
      have listed := fewer here
      rcases List.mem_cons.mp (before j e listed) with rfl | left
      · rw [free] at listed
        cases listed
      · exact left
    | _ => exact before.elim
  | @ended m e p s q old h =>
    have before := clears _ old
    cases h with
    | @clear i is listed =>
      have gone : (w.apply (.run t m)).listed i = none := by
        rw [Ends.apply (.clear listed) old, tells_retire]
        exact sound.tidy.listed_retire listed
      refine clears_upon (fun j a here => ?_) w e _
      rcases List.mem_cons.mp (before j a (fewer here)) with rfl | left
      · rw [gone] at here
        cases here
      · exact left
    | _ => exact before.elim
  | @closed m e s z old =>
    have before := clears _ old
    cases z with
    | clearing is => exact before.mono fewer
    | _ => exact before.elim
  | opening old | answered old | discarded old | replied old => exact (clears _ old).elim

end World
end BridgeKeeper.Bridge
