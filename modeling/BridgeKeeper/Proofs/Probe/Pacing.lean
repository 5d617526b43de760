import BridgeKeeper.Probe.Prober

/-!
# Probes one at a time

A probe is sent only once the result of the one before it is published, however long that takes and
whenever the ticks come. Stopping falls between two probes: none is sent any more, while the one that
is under way still ends and is published. It does not matter which ticks are due by then, for a
scheduler that waits looks first whether it was stopped.
-/
namespace BridgeKeeper.Probe.Prober

variable {p : Prober}

theorem run_append (p : Prober) (xs ys : List Event) : p.run (xs ++ ys) = (p.run xs).run ys :=
  List.foldl_append

/-- What is seen of a prober from outside: a probe that is sent, or a result that is published. -/
inductive Mark where
  | sent
  | result (c : Code)
deriving DecidableEq

def marks (p : Prober) (x : Event) : List Mark :=
  List.replicate ((p.apply x).requests - p.requests) .sent ++
    ((p.apply x).published.drop p.published.length).map .result

def history (p : Prober) : List Event → List Mark
  | [] => []
  | x :: xs => p.marks x ++ (p.apply x).history xs

def inFlight (p : Prober) : Nat := p.requests - p.published.length

/-- How a prober stands of which this was seen: every probe is followed by its result, but for the
one that is under way. -/
structure Paced (p : Prober) (ms : List Mark) : Prop where
  requests : p.requests = p.published.length + if p.scheduler = .probing then 1 else 0
  seen : ms = p.published.flatMap (fun c => [.sent, .result c]) ++ List.replicate p.inFlight .sent

theorem paced_start : ({} : Prober).Paced [] := ⟨rfl, rfl⟩

variable {ms : List Mark}

theorem Paced.inFlight_eq (h : p.Paced ms) :
    p.inFlight = if p.scheduler = .probing then 1 else 0 := by
  rw [inFlight, h.requests]
  omega

/-- The delivery of results, and the order to stop, concern neither probes nor what is published. -/
theorem apply_of_quiet {x : Event} (ticks : x ≠ .tick) (replies : ∀ c, x ≠ .reply c) :
    (p.apply x).requests = p.requests ∧ (p.apply x).published = p.published ∧
      (p.apply x).scheduler = p.scheduler := by
  cases x with
  | stop => exact ⟨rfl, rfl, rfl⟩
  | tick => exact absurd rfl ticks
  | reply c => exact absurd rfl (replies c)
  | wake =>
    simp only [apply, wake]
    repeat' split
    all_goals exact ⟨rfl, rfl, rfl⟩
  | deliver =>
    simp only [apply, deliver]
    split <;> exact ⟨rfl, rfl, rfl⟩

/-- An event of which nothing is seen. -/
theorem Paced.of_same {x : Event} (h : p.Paced ms) (requests : (p.apply x).requests = p.requests)
    (published : (p.apply x).published = p.published)
    (probing : (p.apply x).scheduler = .probing ↔ p.scheduler = .probing) :
    (p.apply x).Paced (ms ++ p.marks x) := by
  have silent : p.marks x = [] := by simp [marks, requests, published]
  rw [silent, List.append_nil]
  refine ⟨?_, ?_⟩
  · simp only [requests, published, probing]
    exact h.requests
  · rw [inFlight, requests, published]
    exact h.seen

theorem Paced.tick (h : p.Paced ms) : (p.apply .tick).Paced (ms ++ p.marks .tick) := by
  by_cases waits : p.scheduler = .waiting
  · have idle : p.scheduler ≠ .probing := by simp [waits]
    by_cases stopped : p.stopped = true
    · have after : p.apply .tick = { p with scheduler := .ended } := by
        simp [apply, Prober.tick, waits, stopped]
      exact h.of_same (by rw [after]) (by rw [after]) (by simp [after, idle])
    · have after : p.apply .tick = { p with scheduler := .probing, requests := p.requests + 1 } := by
        simp [apply, Prober.tick, waits, stopped]
      have sent : p.marks .tick = [.sent] := by simp [marks, after]
      have requests := h.requests
      have seen := h.seen
      rw [if_neg idle] at requests
      rw [h.inFlight_eq, if_neg idle] at seen
      refine ⟨by simp [after, requests], ?_⟩
      simp [sent, after, inFlight, requests, seen]
  · have after : p.apply .tick = p := by simp [apply, Prober.tick, waits]
    exact h.of_same (by rw [after]) (by rw [after]) (by rw [after])

theorem Paced.reply (h : p.Paced ms) (c : Code) :
    (p.apply (.reply c)).Paced (ms ++ p.marks (.reply c)) := by
  by_cases probing : p.scheduler = .probing
  · have after : p.apply (.reply c) =
        { p with
          scheduler := .waiting, slot := some c, fresh := true, published := p.published ++ [c] } := by
      simp [apply, Prober.reply, probing]
    have told : p.marks (.reply c) = [.result c] := by simp [marks, after]
    have requests := h.requests
    have seen := h.seen
    rw [if_pos probing] at requests
    rw [h.inFlight_eq, if_pos probing] at seen
    refine ⟨by simp [after, requests], ?_⟩
    simp [told, after, inFlight, requests, seen]
  · have after : p.apply (.reply c) = p := by simp [apply, Prober.reply, probing]
    exact h.of_same (by rw [after]) (by rw [after]) (by rw [after])

theorem Paced.apply (h : p.Paced ms) (x : Event) : (p.apply x).Paced (ms ++ p.marks x) := by
  have quiet (ticks : x ≠ .tick) (replies : ∀ c, x ≠ .reply c) : (p.apply x).Paced (ms ++ p.marks x) := by
    obtain ⟨requests, published, scheduler⟩ := apply_of_quiet (p := p) ticks replies
    exact h.of_same requests published (by rw [scheduler])
  cases x with
  | tick => exact h.tick
  | reply c => exact h.reply c
  | stop | wake | deliver => exact quiet nofun nofun

theorem Paced.run (h : p.Paced ms) (xs : List Event) : (p.run xs).Paced (ms ++ p.history xs) := by
  induction xs generalizing p ms with
  | nil =>
    rw [history, List.append_nil]
    exact h
  | cons x xs ih =>
    rw [history, ← List.append_assoc]
    exact ih (h.apply x)

/-! ## Behind the stop -/

theorem stop_of_stopped (h : p.stopped = true) : p.stop = p := by
  rw [stop, ← h]

theorem stopped_apply (h : p.stopped = true) (x : Event) : (p.apply x).stopped = true := by
  cases x with
  | stop => rfl
  | tick =>
    simp only [apply, tick]
    repeat' split
    all_goals exact h
  | reply c =>
    simp only [apply, reply]
    split <;> exact h
  | wake =>
    simp only [apply, wake]
    repeat' split
    all_goals exact h
  | deliver =>
    simp only [apply, deliver]
    split <;> exact h

theorem stopped_run (h : p.stopped = true) (xs : List Event) : (p.run xs).stopped = true := by
  induction xs generalizing p with
  | nil => exact h
  | cons x xs ih => exact ih (stopped_apply h x)

/-- Who is stopped once more is stopped already. -/
theorem stop_run_stop (p : Prober) (xs : List Event) : (p.stop.run xs).stop = p.stop.run xs :=
  stop_of_stopped (stopped_run rfl xs)

def firstReply? (xs : List Event) : Option Code :=
  xs.findSome? fun
    | .reply c => some c
    | _ => none

/-- What a prober that was stopped comes to publish in the course of some events: all that it has
published, and the result of the probe that is under way. -/
def remaining (p : Prober) (xs : List Event) : List Code :=
  p.published ++ if p.scheduler = .probing then (firstReply? xs).toList else []

theorem apply_of_stopped (h : p.stopped = true) (x : Event) (xs : List Event) :
    (p.apply x).requests = p.requests ∧ (p.apply x).remaining xs = p.remaining (x :: xs) := by
  have quiet (ticks : x ≠ .tick) (replies : ∀ c, x ≠ .reply c)
      (later : firstReply? (x :: xs) = firstReply? xs) :
      (p.apply x).requests = p.requests ∧ (p.apply x).remaining xs = p.remaining (x :: xs) := by
    obtain ⟨requests, published, scheduler⟩ := apply_of_quiet (p := p) ticks replies
    exact ⟨requests, by rw [remaining, remaining, published, scheduler, later]⟩
  cases x with
  | stop | wake | deliver => exact quiet nofun nofun rfl
  | tick =>
    by_cases waits : p.scheduler = .waiting
    · have after : p.apply .tick = { p with scheduler := .ended } := by simp [apply, tick, waits, h]
      rw [after]
      exact ⟨rfl, by simp [remaining, waits]⟩
    · have after : p.apply .tick = p := by simp [apply, tick, waits]
      rw [after]
      exact ⟨rfl, rfl⟩
  | reply c =>
    by_cases probing : p.scheduler = .probing
    · have after : p.apply (.reply c) =
          { p with
            scheduler := .waiting, slot := some c, fresh := true, published := p.published ++ [c] } := by
        simp [apply, reply, probing]
      rw [after]
      exact ⟨rfl, by simp [remaining, probing, firstReply?]⟩
    · have after : p.apply (.reply c) = p := by simp [apply, reply, probing]
      rw [after]
      exact ⟨rfl, by simp [remaining, probing]⟩

/-- A prober that was stopped sends nothing; it still publishes the result of the probe under way. -/
theorem run_of_stopped (h : p.stopped = true) (xs : List Event) :
    (p.run xs).requests = p.requests ∧ (p.run xs).published = p.remaining xs := by
  induction xs generalizing p with
  | nil => exact ⟨rfl, by simp [run, remaining, firstReply?]⟩
  | cons x xs ih =>
    obtain ⟨requests, published⟩ := ih (stopped_apply h x)
    obtain ⟨requests', published'⟩ := apply_of_stopped h x xs
    exact ⟨requests.trans requests', published.trans published'⟩

/-- Whenever the ticks come, however long the probes take and whatever they bring: what is seen of a
prober is that each probe is sent and then its result is published, one after the other, the last one
being under way perhaps. From the moment at which it is stopped it sends nothing; the probe that is
under way then still publishes its result, and when none is, the scheduler ends at its next look. Once
it has ended there are as many results as there were probes. -/
theorem probes_apart (before after : List Event) :
    (history {} before =
        (run {} before).published.flatMap (fun c => [.sent, .result c]) ++
          List.replicate (run {} before).inFlight .sent ∧
      (run {} before).inFlight ≤ 1) ∧
    (run {} (before ++ .stop :: after)).requests = (run {} before).requests ∧
    (run {} (before ++ .stop :: after)).published = (run {} before).published ++
      (if (run {} before).inFlight = 1 then (firstReply? after).toList else []) ∧
    ((run {} (before ++ .stop :: after)).inFlight = 0 →
      (run {} (before ++ .stop :: after)).tick.scheduler = .ended) ∧
    ((run {} before).scheduler = .ended →
      (run {} before).published.length = (run {} before).requests) := by
  have paced := paced_start.run before
  rw [List.nil_append] at paced
  have one := paced.inFlight_eq
  have split : run {} (before ++ .stop :: after) = (run {} before).stop.run after :=
    run_append {} before (.stop :: after)
  have stopped : (run {} before).stop.stopped = true := rfl
  obtain ⟨requests, published⟩ := run_of_stopped stopped after
  refine ⟨⟨paced.seen, ?_⟩, ?_, ?_, fun idle => ?_, fun ended => ?_⟩
  · rw [one]
    split <;> omega
  · rw [split]
    exact requests
  · rw [split, published, one]
    by_cases probing : (run {} before).scheduler = .probing <;> simp [remaining, stop, probing]
  · have still := stopped_run stopped after
    rw [(paced_start.run (before ++ .stop :: after)).inFlight_eq] at idle
    rw [split] at idle ⊢
    cases scheduler : ((run {} before).stop.run after).scheduler with
    | waiting => simp [tick, scheduler, still]
    | probing => simp [scheduler] at idle
    | ended => simp [tick, scheduler]
  · have requests := paced.requests
    rw [if_neg (by simp [ended])] at requests
    exact requests.symm

/-- The prober is stopped while a probe is under way and the next tick is due already. -/
theorem probes_apart_overdue :
    (run {} [.tick]).inFlight = 1 ∧
      (run {} ([.tick] ++ .stop :: [.tick, .reply ⟨200⟩, .tick])).requests = 1 ∧
      (run {} ([.tick] ++ .stop :: [.tick, .reply ⟨200⟩, .tick])).published = [⟨200⟩] ∧
      (run {} ([.tick] ++ .stop :: [.tick, .reply ⟨200⟩])).tick.scheduler = .ended ∧
      (run {} [.tick, .stop, .tick, .reply ⟨200⟩, .tick]).published.length =
        (run {} [.tick, .stop, .tick, .reply ⟨200⟩, .tick]).requests := by
  obtain ⟨-, requests, published, -, -⟩ := probes_apart [.tick] [.tick, .reply ⟨200⟩, .tick]
  obtain ⟨-, -, -, ends, -⟩ := probes_apart [.tick] [.tick, .reply ⟨200⟩]
  obtain ⟨-, -, -, -, even⟩ := probes_apart [.tick, .stop, .tick, .reply ⟨200⟩, .tick] []
  exact ⟨by decide, requests, published, ends (by decide), even (by decide)⟩

end BridgeKeeper.Probe.Prober
