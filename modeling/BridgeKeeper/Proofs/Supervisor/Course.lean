import BridgeKeeper.Proofs.Bridge.Ownership
import BridgeKeeper.Proofs.Probe.Pacing
import BridgeKeeper.Supervisor

/-!
# The course of a supervised run

A supervised run is driven by events, in any order. The functions that drive it to its end choose one
order: tasks go on as far as they can, and the prober probes until it is told to stop. What they come
to is what some events lead to, in which nothing befalls a session on its own.
-/
namespace BridgeKeeper

namespace Bridge

/-- Tasks go on, and the answers that they wait for come. -/
inductive Event.Calm : Event → Prop
  | run (t : TaskId) : Calm (.run t {})
  | answer (k : CallId) (a : Answer) : Calm (.answer k a)
  | reply (t : TaskId) (r : Except Directory.Error Int32) : Calm (.reply t r)

namespace World

/-- From one world to another by such events. -/
def Settles (w v : World) : Prop := ∃ xs : List Event, (∀ x ∈ xs, x.Calm) ∧ v = w.run xs

theorem Settles.refl (w : World) : w.Settles w := ⟨[], by simp, rfl⟩

theorem Settles.trans {w v u : World} (h : w.Settles v) (h' : v.Settles u) : w.Settles u := by
  obtain ⟨xs, calm, rfl⟩ := h
  obtain ⟨ys, calm', rfl⟩ := h'
  refine ⟨xs ++ ys, fun x there => ?_, (w.run_append xs ys).symm⟩
  exact (List.mem_append.mp there).elim (calm x) (calm' x)

theorem settles_apply (w : World) {x : Event} (calm : x.Calm) : w.Settles (w.apply x) :=
  ⟨[x], by simpa using calm, rfl⟩

theorem settles_answerBy (s : Script) (w : World) (k : CallId) : w.Settles (w.answerBy s k) := by
  rw [answerBy]
  split
  · exact w.settles_apply (.answer k _)
  · exact .refl w

theorem settles_answers (s : Script) (ks : List CallId) (w : World) :
    w.Settles (ks.foldl (fun w k => w.answerBy s k) w) := by
  induction ks generalizing w with
  | nil => exact .refl w
  | cons k ks ih => exact (settles_answerBy s w k).trans (ih _)

theorem settles_drive (s : Script) (t : TaskId) (fuel : Nat) (w : World) :
    w.Settles (w.drive s t fuel) := by
  induction fuel generalizing w with
  | zero => exact .refl w
  | succ fuel ih =>
    rw [drive]
    split
    · exact ((w.settles_apply (.run t)).trans (settles_answers s _ _)).trans (ih _)
    · exact .refl w

theorem settles_runQueue (s : Script) (fuel : Nat) (queue : List TaskId) (w : World) :
    w.Settles (w.runQueue s fuel queue) := by
  induction fuel generalizing queue w with
  | zero => exact .refl w
  | succ fuel ih =>
    rw [runQueue]
    split
    · exact .refl w
    · exact (settles_drive s _ _ w).trans (ih _ _)

theorem settles_settle (s : Script) (w : World) : w.Settles (w.settle s) :=
  settles_runQueue s _ [] w

end World
end Bridge

theorem Boot.settles_settle (s : Bridge.Script) (reporter : Option Directory.Client)
    (service : Directory.Service) (t : Bridge.TaskId) (traffic : Directory.Traffic)
    (w : Bridge.World) : w.Settles (settle s reporter service t traffic w).2 := by
  have settled := Bridge.World.settles_settle s w
  simp only [settle]
  split
  · exact (settled.trans (Bridge.World.settles_apply _ (.reply t _))).trans
      (Bridge.World.settles_settle s _)
  · exact settled

/-! ## The prober -/

namespace Probe.Prober

variable {p : Prober}

def StopsOnce (p q : Prober) : Prop :=
  ∃ before after : List Event, Event.stop ∉ before ∧ Event.stop ∉ after ∧
    q = (p.run before).stop.run after

theorem stopsOnce_windUp (p : Prober) : p.StopsOnce p.windUp := by
  refine ⟨[], [.wake, .deliver, .tick, .wake], by decide, by decide, ?_⟩
  simp only [windUp, run, List.foldl_cons, List.foldl_nil, apply]

/-- Events before the stop. -/
theorem StopsOnce.of_run {p q : Prober} {xs : List Event} (h : (p.run xs).StopsOnce q)
    (own : Event.stop ∉ xs) : p.StopsOnce q := by
  obtain ⟨before, after, own', own'', rfl⟩ := h
  refine ⟨xs ++ before, after, fun there => ?_, own'', by rw [run_append]⟩
  exact (List.mem_append.mp there).elim own own'

/-- Events behind the stop, before which it was stopped already. -/
theorem StopsOnce.of_stop_run {p q : Prober} {xs : List Event} (h : (p.stop.run xs).StopsOnce q)
    (own : Event.stop ∉ xs) : p.StopsOnce q := by
  obtain ⟨before, after, own', own'', rfl⟩ := h
  refine ⟨[], xs ++ before ++ after, by simp, by simp [own, own', own''], ?_⟩
  rw [← run_append, stop_run_stop, ← run_append]
  rfl

theorem stopsOnce_cycles (c : Directory.Client) (port : UInt16) (s : Directory.Service)
    (ends : Directory.Traffic → Bool) (fuel : Nat) (t : Directory.Traffic) (p : Prober) :
    p.StopsOnce (cycles c port s ends fuel t p).2 := by
  induction fuel generalizing t p with
  | zero =>
    simp only [cycles]
    exact stopsOnce_windUp p
  | succ fuel ih =>
    by_cases told : ends t
    · simp only [cycles, told, if_true]
      exact stopsOnce_windUp p
    simp only [cycles, told]
    generalize send c port s t = sent
    obtain ⟨code, t'⟩ := sent
    -- The probe that is under way when the prober is stopped still ends.
    have rest := ih t' ((if ends t' then p.tick.stop else p.tick).run [.reply code, .wake, .deliver])
    have ticks : Event.stop ∉ [Event.tick] := by decide
    refine StopsOnce.of_run ?_ ticks
    by_cases told : ends t'
    · rw [if_pos told] at rest ⊢
      exact rest.of_stop_run (by simp)
    · rw [if_neg told] at rest ⊢
      exact rest.of_run (by simp)

end Probe.Prober

/-! ## The whole run -/

namespace Supervisor

variable {s v u : Supervisor}

def brings (s : Supervisor) : Event → List Bridge.Event
  | .run t m => [.run t m]
  | .answer k a => [.answer k a]
  | .reply t r => [.reply t r]
  | .session x => [.session x]
  | .proceed => if s.stage = .joining ∧ s.prober.isOver then [.start .disconnectAll] else []
  | _ => []

theorem apply_world (s : Supervisor) (x : Event) : (s.apply x).world = s.world.run (s.brings x) := by
  cases x with
  | run | answer | reply | session | shutdown => rfl
  | tick | probed | wake | deliver =>
    simp only [apply, onProber]
    split <;> rfl
  | proceed =>
    simp only [apply, proceed, brings]
    cases stage : s.stage with
    | booting t | clearing t => simp only; split <;> rfl
    | probing => simp only; split <;> rfl
    | joining => by_cases ended : s.prober.isOver <;> simp [ended] <;> rfl
    | _ => rfl

def Honest (s : Supervisor) : List Event → Prop
  | [] => True
  | x :: xs => s.world.Honest (s.brings x) ∧ (s.apply x).Honest xs

theorem run_append (s : Supervisor) (xs ys : List Event) : s.run (xs ++ ys) = (s.run xs).run ys :=
  List.foldl_append

theorem Honest.append {xs ys : List Event} (h : s.Honest xs) (h' : (s.run xs).Honest ys) :
    s.Honest (xs ++ ys) := by
  induction xs generalizing s with
  | nil => exact h'
  | cons x xs ih => exact ⟨h.1, ih h.2 h'⟩

/-- From one moment of a run to another, with honest sessions. -/
def Reaches (s v : Supervisor) : Prop := ∃ xs, s.Honest xs ∧ v = s.run xs

theorem Reaches.refl (s : Supervisor) : s.Reaches s := ⟨[], trivial, rfl⟩

theorem Reaches.trans (h : s.Reaches v) (h' : v.Reaches u) : s.Reaches u := by
  obtain ⟨xs, honest, rfl⟩ := h
  obtain ⟨ys, honest', rfl⟩ := h'
  exact ⟨xs ++ ys, honest.append honest', (s.run_append xs ys).symm⟩

theorem reaches_apply {x : Event} (honest : s.world.Honest (s.brings x)) : s.Reaches (s.apply x) :=
  ⟨[x], ⟨honest, trivial⟩, rfl⟩

theorem honest_proceed (s : Supervisor) : s.world.Honest (s.brings .proceed) := by
  rw [brings]
  split
  · exact ⟨trivial, trivial⟩
  · trivial

theorem reaches_proceed (s : Supervisor) : s.Reaches s.proceed :=
  reaches_apply (x := .proceed) s.honest_proceed

theorem reaches_shutdown (s : Supervisor) : s.Reaches (s.apply .shutdown) :=
  reaches_apply trivial

theorem reaches_world {w : Bridge.World} (h : s.world.Settles w) :
    s.Reaches { s with world := w } := by
  obtain ⟨xs, calm, rfl⟩ := h
  induction xs generalizing s with
  | nil => exact .refl s
  | cons x xs ih =>
    have first : s.Reaches (s.onWorld x) := by
      cases calm x List.mem_cons_self with
      | run t => exact reaches_apply (x := .run t {}) ⟨fun _ _ _ _ _ _ _ => trivial, trivial⟩
      | answer k a => exact reaches_apply (x := .answer k a) ⟨trivial, trivial⟩
      | reply t r => exact reaches_apply (x := .reply t r) ⟨trivial, trivial⟩
    exact first.trans (ih (s := s.onWorld x) fun y there => calm y (List.mem_cons_of_mem _ there))

theorem reaches_prober (probing : s.hasProber = true) {xs : List Probe.Prober.Event}
    (own : Probe.Prober.Event.stop ∉ xs) : s.Reaches { s with prober := s.prober.run xs } := by
  induction xs generalizing s with
  | nil => exact .refl s
  | cons x xs ih =>
    have first : s.Reaches { s with prober := s.prober.apply x } := by
      have same (y : Event) (onto : s.apply y = s.onProber x) (idle : s.brings y = []) :
          s.Reaches { s with prober := s.prober.apply x } := by
        have reached : s.Reaches (s.apply y) := reaches_apply (by rw [idle]; trivial)
        rwa [onto, onProber, if_pos probing] at reached
      cases x with
      | stop => simp at own
      | tick => exact same .tick rfl rfl
      | reply c => exact same (.probed c) rfl rfl
      | wake => exact same .wake rfl rfl
      | deliver => exact same .deliver rfl rfl
    exact first.trans (ih (s := { s with prober := s.prober.apply x }) probing
      fun there => own (List.mem_cons_of_mem _ there))

/-- The shutdown finds the prober between two events of its own. -/
theorem reaches_probe (x : Surroundings) (c : Directory.Client) (port : UInt16) (fuel : Nat)
    (traffic : Directory.Traffic) (early : s.stage ≠ .joining) :
    s.Reaches ((s.probe x c port fuel traffic).2.apply .shutdown).proceed := by
  rw [probe]
  split
  · next runs =>
    have probing : s.stage = .probing := by
      cases stage : s.stage with
      | probing => rfl
      | joining => exact absurd stage early
      | _ => simp [hasProber, stage] at runs
    obtain ⟨before, after, own, own', same⟩ :=
      Probe.Prober.stopsOnce_cycles c port x.service x.shutsDown fuel traffic s.prober
    let stopping : Supervisor :=
      { s with prober := (s.prober.run before).stop, shutdown := true, stage := .joining }
    have stopped : s.Reaches stopping := by
      have probed := (reaches_prober runs own).trans (reaches_shutdown _)
      have told := probed.trans (reaches_proceed _)
      simpa only [apply, proceed, probing, if_true] using told
    have ended := stopped.trans (reaches_prober (s := stopping) rfl own')
    simp only [apply, proceed, probing, if_true, same, Probe.Prober.stop_run_stop]
    exact ended
  · exact (reaches_shutdown s).trans (reaches_proceed _)

/-- A whole run is what some events come to, in which the sessions are honest. -/
theorem reaches_complete (x : Surroundings) (c : Directory.Client) (port : UInt16) (fuel : Nat) :
    (start x.plan).Reaches (complete x c port fuel).2 := by
  have settled := Boot.settles_settle x.script (some c) x.service 0 [] (start x.plan).world
  simp only [complete]
  generalize Boot.settle x.script (some c) x.service 0 [] (start x.plan).world = out at settled
  obtain ⟨traffic, w⟩ := out
  simp only at settled ⊢
  let booted : Supervisor := { start x.plan with world := w }.proceed
  have early : booted.stage ≠ .joining := by
    simp only [booted, proceed, start]
    split <;> simp
  have probed := ((reaches_world settled).trans (reaches_proceed _)).trans
    (reaches_probe (s := booted) x c port fuel traffic early)
  have joined := probed.trans (reaches_proceed _)
  exact (joined.trans (reaches_world (Bridge.World.settles_settle _ _))).trans (reaches_proceed _)

end Supervisor
end BridgeKeeper
