import BridgeKeeper.Proofs.Bridge.Clearing
import BridgeKeeper.Proofs.Supervisor.Course

/-!
# A supervised run tears everything down

A supervised run calls the transport once at most, for the default bridge. Once it is over, no bridge
is listed, no session is alive and no probe is sent any more, whatever befell the sessions and whenever
the shutdown came.
-/
namespace BridgeKeeper

namespace Probe.Prober

variable {p : Prober}

theorem isOver_iff : p.isOver = true ↔ p.scheduler = .ended ∧ p.delivery = .ended := by
  simp [isOver]

/-- A prober that is over sends no request and stays over. -/
theorem apply_of_isOver (h : p.isOver = true) (x : Event) :
    (p.apply x).requests = p.requests ∧ (p.apply x).isOver = true := by
  obtain ⟨scheduler, delivery⟩ := isOver_iff.mp h
  cases x with
  | stop => exact ⟨rfl, h⟩
  | tick => simp [apply, tick, scheduler, h]
  | reply c => simp [apply, reply, scheduler, h]
  | wake => simp [apply, wake, delivery, h]
  | deliver => simp [apply, deliver, delivery, h]

theorem requests_run_of_isOver (h : p.isOver = true) (xs : List Event) :
    (p.run xs).requests = p.requests := by
  induction xs generalizing p with
  | nil => rfl
  | cons x xs ih =>
    obtain ⟨same, still⟩ := apply_of_isOver h x
    exact (ih still).trans same

end Probe.Prober

namespace Supervisor

variable {s v : Supervisor}

/-- What holds at every moment of a run. Only the boot run may call the transport, and only while it
is waited for; the bridges are taken down once the prober is over. No task but the one that is waited
for serves anybody. -/
structure Orderly (s : Supervisor) : Prop where
  sound : s.world.Sound
  called : s.world.calls.length ≤ 1
  caller {t : Bridge.TaskId} {p : Bridge.Phase} : s.world.tasks t = some p → p.MayCall →
    s.world.calls = [] ∧ s.stage = .booting t
  busy {t : Bridge.TaskId} {p : Bridge.Phase} : s.world.tasks t = some p → p.Serves →
    s.stage = .booting t ∨ s.stage = .clearing t
  probed {t : Bridge.TaskId} : s.stage = .clearing t ∨ s.stage = .over → s.prober.isOver = true
  clearing {t : Bridge.TaskId} : s.stage = .clearing t →
    t < s.world.spawned ∧ ∀ p, s.world.tasks t = some p → s.world.Clears p
  cleared : s.stage = .over → ∀ i, s.world.listed i = none

namespace Orderly

theorem quiet (h : s.Orderly) (booted : ∀ t, s.stage ≠ .booting t) : s.world.Quiet :=
  fun t _ ht may => booted t (h.caller ht may).2

theorem start (p : Boot.Plan) : (start p).Orderly := by
  refine ⟨Bridge.World.sound_run [.listen, .start (.boot p)], Nat.zero_le 1, ?_, ?_, ?_, ?_, ?_⟩
  · intro t q ht may
    rcases Bridge.World.tasks_spawn ht with ⟨rfl, rfl⟩ | old
    · exact ⟨rfl, rfl⟩
    · cases old
  · intro t q ht serves
    rcases Bridge.World.tasks_spawn ht with ⟨rfl, rfl⟩ | old
    · exact Or.inl rfl
    · cases old
  · rintro t (h | h) <;> cases h
  · intro t h
    cases h
  · intro h
    cases h

/-- A task goes on, an answer comes, or something befalls a session. -/
theorem onWorld (h : s.Orderly) {x : Bridge.Event} (starts : ∀ o, x ≠ .start o)
    (aborts : ∀ t, x ≠ .abort t) : (s.onWorld x).Orderly := by
  have move := Bridge.World.apply_move s.world x
  refine ⟨h.sound.apply x, ?_, ?_, ?_, h.probed, ?_, ?_⟩
  · rcases h.sound.calls_apply x with same | ⟨t, p, c, ht, may, calls, -⟩
    · exact Nat.le_trans (Nat.le_of_eq (congrArg List.length same)) h.called
    · exact Nat.le_of_eq (by rw [Supervisor.onWorld, calls, (h.caller ht may).1]; rfl)
  · intro t q hq may
    rcases (move.task hq).mayCall may with ⟨-, o, start, -⟩ | ⟨p, ht, before⟩
    · exact absurd start (starts o)
    obtain ⟨never, booting⟩ := h.caller ht before
    refine ⟨?_, booting⟩
    rcases h.sound.calls_apply x with same | ⟨u, p', c, hu, asked, -, past⟩
    · exact same.trans never
    -- The task that called is the one that the run boots with, and is past that.
    · have own : u = t := by
        have stage := booting.symm.trans (h.caller hu asked).2
        cases stage
        rfl
      exact absurd may (past q (own ▸ hq))
  · intro t q hq serves
    rcases (move.task hq).serves serves with ⟨-, o, start⟩ | ⟨p, ht, before⟩
    · exact absurd start (starts o)
    · exact h.busy ht before
  · intro t stage
    have quiet := h.quiet fun u booting => by cases stage.symm.trans booting
    obtain ⟨there, clears⟩ := h.clearing stage
    exact ⟨Nat.lt_of_lt_of_le there move.spawned_le, fun p hp =>
      h.sound.clears_apply there (quiet.listed h.sound) clears (absurd · (aborts t)) hp⟩
  · intro stage i
    have quiet := h.quiet fun u booting => by cases stage.symm.trans booting
    cases here : (s.onWorld x).world.listed i with
    | none => rfl
    | some e =>
      have before := quiet.listed h.sound here
      rw [h.cleared stage i] at before
      cases before

theorem onProber (h : s.Orderly) (x : Probe.Prober.Event) : (s.onProber x).Orderly := by
  rw [Supervisor.onProber]
  split
  · next probing =>
    refine ⟨h.sound, h.called, h.caller, h.busy, ?_, h.clearing, h.cleared⟩
    rintro t (stage | stage)
    · simp [hasProber, show s.stage = .clearing t from stage] at probing
    · simp [hasProber, show s.stage = .over from stage] at probing
  · exact h

/-- Once the task that is waited for is over, no task serves anybody. -/
theorem idle (h : s.Orderly) {t u : Bridge.TaskId} {p : Bridge.Phase}
    (stage : s.stage = .booting t ∨ s.stage = .clearing t) (ended : isDone s.world t = true)
    (hu : s.world.tasks u = some p) : ¬ p.Serves := by
  intro serves
  have own : u = t := by
    rcases stage with stage | stage <;> rcases h.busy hu serves with its | its <;>
      cases stage.symm.trans its <;> rfl
  rw [isDone, ← own, hu] at ended
  cases p with
  | done => exact serves.elim
  | _ => cases ended

theorem proceed (h : s.Orderly) : s.proceed.Orderly := by
  rw [Supervisor.proceed]
  cases stage : s.stage with
  | booting t =>
    simp only
    split
    · next ended =>
      have idle {u : Bridge.TaskId} {p : Bridge.Phase} (hu : s.world.tasks u = some p) : ¬ p.Serves :=
        h.idle (Or.inl stage) ended hu
      refine ⟨h.sound, h.called, fun hu may => ?_, fun hu serves => absurd serves (idle hu), by simp,
        by simp, by simp⟩
      exact absurd may.serves (idle hu)
    · exact h
  | probing =>
    have quiet := h.quiet fun t booting => by cases stage.symm.trans booting
    simp only
    split
    · refine ⟨h.sound, h.called, fun ht may => absurd may (quiet _ _ ht), fun ht serves => ?_, by simp,
        by simp, by simp⟩
      rcases h.busy ht serves with its | its <;> cases stage.symm.trans its
    · exact h
  | joining =>
    have quiet := h.quiet fun t booting => by cases stage.symm.trans booting
    simp only
    split
    · next ended =>
      refine ⟨h.sound.apply (.start .disconnectAll), h.called, ?_, ?_, fun _ => ended, ?_, by simp⟩
      · intro t p ht may
        rcases Bridge.World.tasks_spawn ht with ⟨-, rfl⟩ | old
        · exact may.elim
        · exact absurd may (quiet t p old)
      · intro t p ht serves
        rcases Bridge.World.tasks_spawn ht with ⟨rfl, -⟩ | old
        · exact Or.inr rfl
        · rcases h.busy old serves with its | its <;> cases stage.symm.trans its
      · intro t clearing
        cases clearing
        refine ⟨Nat.lt_succ_self _, fun p hp => ?_⟩
        rcases Bridge.World.tasks_spawn hp with ⟨-, rfl⟩ | old
        · trivial
        · rw [h.sound.manned.unspawned (Nat.le_refl _)] at old
          cases old
    · exact h
  | clearing t =>
    have quiet := h.quiet fun t booting => by cases stage.symm.trans booting
    simp only
    split
    · next ended =>
      refine ⟨h.sound, h.called, fun ht may => absurd may (quiet _ _ ht),
        fun hu serves => absurd serves (h.idle (Or.inr stage) ended hu),
        fun _ => h.probed (Or.inl stage), by simp, fun _ => ?_⟩
      rw [isDone] at ended
      split at ended
      · next r ht =>
        have clears := (h.clearing stage).2 _ ht
        cases r with
        | cleared => exact clears
        | _ => exact clears.elim
      · cases ended
    · exact h
  | _ => exact h

theorem apply (h : s.Orderly) (x : Event) : (s.apply x).Orderly := by
  cases x with
  | run | answer | reply | session => exact h.onWorld (by simp) (by simp)
  | tick | probed | wake | deliver => exact h.onProber _
  | shutdown => exact ⟨h.sound, h.called, h.caller, h.busy, h.probed, h.clearing, h.cleared⟩
  | proceed => exact h.proceed

theorem run (h : s.Orderly) (xs : List Event) : (s.run xs).Orderly := by
  induction xs generalizing s with
  | nil => exact h
  | cons x xs ih => exact ih (h.apply x)

end Orderly

/-- No close of a session is cut short by what a supervised run brings: it cancels no task. -/
theorem not_cutShort_brings (s : Supervisor) (x : Event) (k : Bridge.SessionId) :
    ¬ s.world.CutShort k (s.brings x) := by
  have single {y : Bridge.Event} (aborts : ∀ t, y ≠ .abort t) : ¬ s.world.CutShort k [y] := by
    rintro (⟨t, e, z, abort, -⟩ | later)
    · exact aborts t abort
    · exact later
  cases x with
  | run | answer | reply | session => exact single (by simp)
  | proceed =>
    rw [brings]
    split
    · exact single (by simp)
    · exact id
  | _ => exact id

/-- With honest sessions, the sessions that are alive keep their owners. -/
theorem owned_run {xs : List Event} (honest : s.Honest xs) (regular : s.world.Regular)
    (owned : s.world.Owned fun _ => False) :
    (s.run xs).world.Regular ∧ (s.run xs).world.Owned fun _ => False := by
  induction xs generalizing s with
  | nil => exact ⟨regular, owned⟩
  | cons x xs ih =>
    have owned' := (owned.run honest.1 regular).mono fun {k} cut =>
      cut.elim id (s.not_cutShort_brings x k)
    have regular' := regular.run (s.brings x)
    rw [← apply_world] at owned' regular'
    exact ih honest.2 regular' owned'

theorem owned_start (p : Boot.Plan) : (start p).world.Owned fun _ => False := by
  have honest : Bridge.World.Honest {} [.listen, .start (.boot p)] := ⟨trivial, trivial, trivial⟩
  refine (Bridge.World.owned_run honest).mono fun cut => ?_
  rcases cut with ⟨t, e, z, abort, -⟩ | ⟨t, e, z, abort, -⟩ | later
  · cases abort
  · cases abort
  · exact later

/-- No bridge is listed, no session is alive, and whatever the prober does, it sends no request. -/
structure TornDown (s : Supervisor) : Prop where
  unlisted (i : Identity) : s.world.listed i = none
  dead (k : Bridge.SessionId) : s.world.isAlive k = false
  silent (xs : List Probe.Prober.Event) : (s.prober.run xs).requests = s.prober.requests

theorem tornDown_of_over {p : Boot.Plan} {xs : List Event} (honest : (start p).Honest xs)
    (ended : ((start p).run xs).stage = .over) : ((start p).run xs).TornDown := by
  have orderly := (Orderly.start p).run xs
  obtain ⟨regular, owned⟩ := owned_run honest (Bridge.World.regular_run [.listen, .start (.boot p)])
    (owned_start p)
  refine ⟨orderly.cleared ended, fun k => ?_, fun ys => ?_⟩
  · refine Bool.eq_false_iff.mpr fun alive => ?_
    rcases owned.owner alive with ⟨e, connected, session⟩ | ⟨t, e, z, ht⟩ | never
    · obtain ⟨-, a, here, -⟩ := regular.isListedFor connected session
      rw [orderly.cleared ended] at here
      cases here
    · rcases orderly.busy ht trivial with its | its <;> cases ended.symm.trans its
    · exact never
  · exact Probe.Prober.requests_run_of_isOver (orderly.probed (t := 0) (Or.inr ended)) ys

/-- At every moment that a run reaches, the transport was called once at most. -/
theorem Reaches.tornDown {p : Boot.Plan} (reaches : (start p).Reaches v) :
    v.world.calls.length ≤ 1 ∧ (v.stage = .over → v.TornDown) := by
  obtain ⟨xs, honest, rfl⟩ := reaches
  exact ⟨((Orderly.start p).run xs).called, tornDown_of_over honest⟩

/-- A base URL that is not taken is told of as such. -/
theorem invalidUrl_of_ofSettings {d : Settings.DirectoryService} {e : Directory.Error}
    (h : Directory.Client.ofSettings d = .error e) : ∃ text, e = .invalidUrl text := by
  rw [Directory.Client.ofSettings, Directory.Client.ofUrl] at h
  split at h
  · cases h
    exact ⟨_, rfl⟩
  · split at h
    · cases h
      exact ⟨_, rfl⟩
    · cases h

/-- Without a base URL that a client takes, there is no run at all. With one, a run to the end is one
of the ways in which events lead on from the start. Wherever they lead, and so at the end of that run,
the transport was called once at most, and everything is torn down if the run is over. -/
theorem supervise_tears_down (s : Settings) (x : Surroundings) (fuel : Nat) :
    (∀ e, Directory.Client.ofSettings s.directory = .error e →
      (∃ text, e = .invalidUrl text) ∧ supervise s x fuel = .error e) ∧
    (∀ c, Directory.Client.ofSettings s.directory = .ok c →
      ∃ traffic v, supervise s x fuel = .ok (traffic, v) ∧ (start x.plan).Reaches v ∧
        v.world.calls.length ≤ 1 ∧ (v.stage = .over → v.TornDown)) ∧
    ∀ xs, ((start x.plan).run xs).world.calls.length ≤ 1 ∧
      ((start x.plan).Honest xs → ((start x.plan).run xs).stage = .over →
        ((start x.plan).run xs).TornDown) := by
  refine ⟨fun e rejected => ?_, fun c accepted => ?_, fun xs => ?_⟩
  · refine ⟨invalidUrl_of_ofSettings rejected, ?_⟩
    rw [supervise, rejected]
    rfl
  · rw [supervise, accepted]
    have reaches := reaches_complete x c (Probe.defaultTarget x.source s.probing.defaultPort) fuel
    exact ⟨_, _, rfl, reaches, reaches.tornDown⟩
  · exact ⟨((Orderly.start x.plan).run xs).called, tornDown_of_over⟩

/-- One host is stored, the transport accepts, and the service cannot be reached. -/
def sampleSurroundings : Surroundings where
  source := ⟨.ok [⟨"box", "ssh", "alice", "10.0.0.5", 22, "", "", 0⟩], fun _ => .ok []⟩
  script := ⟨.accept true, 0⟩
  service := ⟨⟨[], [], [], none, none, .segments [], none, none⟩, []⟩
  shutsDown := fun _ => false
  now := "20260101_000000"

/-- The shutdown comes while the bridge is opened, and its session ends while it is taken down. -/
def interrupted : List Event :=
  [.run 0 {}, .run 0 {}, .run 0 {}, .shutdown, .answer 0 (.session "s" true), .run 0 {}, .proceed,
    .proceed, .tick, .wake, .proceed, .run 2 {}, .session (.drop 0), .run 2 {}, .run 1 {}, .run 2 {},
    .proceed]

theorem supervise_tears_down_interrupted :
    (∃ e, supervise { directory := { baseUrl := "" } } sampleSurroundings 3 = .error e) ∧
      (∃ traffic v, supervise {} sampleSurroundings 3 = .ok (traffic, v) ∧ v.stage = .over ∧
        (start sampleSurroundings.plan).Reaches v ∧ v.TornDown) ∧
      ((start sampleSurroundings.plan).run interrupted).world.opened = 1 ∧
      ((start sampleSurroundings.plan).run interrupted).world.calls.length ≤ 1 ∧
      ((start sampleSurroundings.plan).run interrupted).TornDown := by
  have calm {w : Bridge.World} {t : Bridge.TaskId} : w.Honest [.run t {}] :=
    ⟨fun _ _ _ _ _ _ _ => trivial, trivial⟩
  have honest : (start sampleSurroundings.plan).Honest interrupted :=
    ⟨calm, calm, calm, trivial, ⟨trivial, trivial⟩, calm, honest_proceed _, honest_proceed _, trivial,
      trivial, honest_proceed _, calm, ⟨trivial, trivial⟩, calm, calm, calm, honest_proceed _, trivial⟩
  have ended : ((start sampleSurroundings.plan).run interrupted).stage = .over := by decide +kernel
  obtain ⟨rejected, -, -⟩ :=
    supervise_tears_down { directory := { baseUrl := "" } } sampleSurroundings 3
  obtain ⟨-, accepted, runs⟩ := supervise_tears_down {} sampleSurroundings 3
  obtain ⟨once, tornDown⟩ := runs interrupted
  refine ⟨?_, ?_, by decide +kernel, once, tornDown honest ended⟩
  · cases client : Directory.Client.ofSettings { baseUrl := "" } with
    | ok c =>
      have none : (Directory.Client.ofSettings { baseUrl := "" }).toOption = none := by decide +kernel
      rw [client] at none
      cases none
    | error e => exact ⟨e, (rejected e client).2⟩
  · cases client : Directory.Client.ofSettings {} with
    | ok c =>
      obtain ⟨traffic, v, result, reaches, -, tornDown⟩ := accepted c client
      have ended : (supervise {} sampleSurroundings 3).toOption.map (·.2.stage) = some .over := by
        decide +kernel
      have stage : v.stage = .over := by
        rw [result] at ended
        exact Option.some.inj ended
      exact ⟨traffic, v, result, stage, reaches, tornDown stage⟩
    | error e =>
      have some : (Directory.Client.ofSettings {}).toOption.isSome = true := by decide +kernel
      rw [client] at some
      cases some

end Supervisor
end BridgeKeeper
