import BridgeKeeper.Boot.Run
import BridgeKeeper.Proofs.Bridge.Effect
import BridgeKeeper.Proofs.Host.Secrecy
import Mathlib.Data.List.Forall2
import Mathlib.Data.Option.Basic

/-!
# What is shown of bridges without their passwords

Passwords travel in the requests of tasks and in the calls of the transport. Where two worlds differ in
nothing else, but for the times of reports, and the same happens to both, they still do so afterwards:
they show the same bridges, boot runs end in the same way, and the same is reported.
-/
namespace BridgeKeeper

def Directory.Report.untimed (r : Report) : Report := { r with timestamp := "" }

namespace Bridge

/-! ## What differs in passwords only -/

def Request.conceal (r : Request) : Request := { r with credentials := r.credentials.conceal }

def Call.conceal (c : Call) : Call := { c with credentials := c.credentials.conceal }

structure Plan.Alike (p q : Boot.Plan) : Prop where
  source : p.source.Alike q.source
  reports : p.reports = q.reports

structure Attempt.Alike (a b : Boot.Attempt) : Prop where
  plan : Plan.Alike a.plan b.plan
  host : a.host.conceal = b.host.conceal
  identity : a.identity = b.identity
  existing : a.existing = b.existing

inductive Caller.Alike : Caller → Caller → Prop
  | plain : Alike .plain .plain
  | boot {a b : Boot.Attempt} : Attempt.Alike a b → Alike (.boot a) (.boot b)

/-- Whether a phase has a host, credentials or a report with it. -/
def Phase.carries : Phase → Bool
  | .ensure .. | .opening .. | .joining .. | .closing .. | .boot _ | .bootRules _ | .reporting .. => true
  | _ => false

inductive Sequel.Alike : Sequel → Sequel → Prop
  | removed : Alike .removed .removed
  | disconnected : Alike .disconnected .disconnected
  | clearing (is : List Identity) : Alike (.clearing is) (.clearing is)
  | discarded {c d : Caller} : c.Alike d → Alike (.discarded c) (.discarded d)

inductive Phase.Alike : Phase → Phase → Prop
  | ensure {c d : Caller} (i : Identity) {r s : Option Request} : c.Alike d →
    r.map Request.conceal = s.map Request.conceal → Alike (.ensure c i r) (.ensure d i s)
  | opening {c d : Caller} (e : EntryId) (k : CallId) : c.Alike d → Alike (.opening c e k) (.opening d e k)
  | joining {c d : Caller} (e : EntryId) : c.Alike d → Alike (.joining c e) (.joining d e)
  | closing (e : EntryId) (s : SessionId) {q z : Sequel} : q.Alike z → Alike (.closing e s q) (.closing e s z)
  | boot {p q : Boot.Plan} : Plan.Alike p q → Alike (.boot p) (.boot q)
  | bootRules {a b : Boot.Attempt} : Attempt.Alike a b → Alike (.bootRules a) (.bootRules b)
  | reporting {r s : Directory.Report} (o : Boot.Outcome) : r.untimed = s.untimed →
    Alike (.reporting r o) (.reporting s o)
  | same {p : Phase} : p.carries = false → Alike p p

inductive Operation.Alike : Operation → Operation → Prop
  | ensureOpen (i : Identity) {r s : Option Request} : r.map Request.conceal = s.map Request.conceal →
    Alike (.ensureOpen i r) (.ensureOpen i s)
  | waitFor (i : Identity) : Alike (.waitFor i) (.waitFor i)
  | remove (i : Identity) : Alike (.remove i) (.remove i)
  | disconnect (i : Identity) : Alike (.disconnect i) (.disconnect i)
  | disconnectAll : Alike .disconnectAll .disconnectAll
  | boot {p q : Boot.Plan} : Plan.Alike p q → Alike (.boot p) (.boot q)

/-- Events that differ in passwords only. What a service replies to a report makes no difference. -/
inductive Event.Alike : Event → Event → Prop
  | start {o o' : Operation} : o.Alike o' → Alike (.start o) (.start o')
  | run (t : TaskId) (m : Meanwhile) : Alike (.run t m) (.run t m)
  | answer (k : CallId) (a : Answer) : Alike (.answer k a) (.answer k a)
  | reply (t : TaskId) (r s : Except Directory.Error Int32) : Alike (.reply t r) (.reply t s)
  | session (x : SessionEvent) : Alike (.session x) (.session x)
  | abort (t : TaskId) : Alike (.abort t) (.abort t)
  | listen : Alike .listen .listen

theorem Operation.Alike.start {o o' : Operation} (h : o.Alike o') : o.start.Alike o'.start := by
  cases h with
  | ensureOpen i requests => exact .ensure i .plain requests
  | boot plans => exact .boot plans
  | waitFor | remove | disconnect | disconnectAll => exact .same rfl

theorem Request.check_alike {r s : Request} (same : r.conceal = s.conceal) : r.check = s.check := by
  have told := congrArg check same
  exact told

theorem Entry.placeholder_alike (i : Identity) {r s : Request} (same : r.conceal = s.conceal) :
    Entry.placeholder i r = .placeholder i s := by
  have told := congrArg (placeholder i) same
  exact told

section
variable {a b : Boot.Attempt}

theorem Attempt.Alike.success (h : Attempt.Alike a b) (e : EntryId) : a.success e = b.success e := by
  rw [Boot.Attempt.success, Boot.Attempt.success, h.existing, h.identity]

theorem Attempt.Alike.failure (h : Attempt.Alike a b) (reason : String) :
    a.failure reason = b.failure reason := by
  rw [Boot.Attempt.failure, Boot.Attempt.failure, h.identity]

theorem Attempt.Alike.report (h : Attempt.Alike a b) (reason : String) :
    (a.report reason).untimed = (b.report reason).untimed := by
  have email := Host.Record.email_alike h.host
  have target := (Credentials.told_alike (Host.Record.credentials_alike h.host [])).2.1
  simp only [Boot.Attempt.report, Directory.Report.untimed, email, target, h.identity]

theorem Attempt.Alike.request (h : Attempt.Alike a b) (rules : List Forward.Rule) :
    (a.request rules).conceal = (b.request rules).conceal := by
  have told := congrArg (Request.ofCredentials ·) (Host.Record.credentials_alike h.host rules)
  exact told

end

namespace World

/-! ## Tables that carry no passwords -/

/-- A world with other tasks, calls and reports. -/
def veil (w : World) (cs : List Call) (ts : TaskId → Option Phase) (rs : List Directory.Report) : World :=
  { w with calls := cs, tasks := ts, reports := rs }

/-- An operation that neither reads nor changes tasks, calls and reports. -/
def Plain (f : World → World) : Prop :=
  ∀ w cs ts rs, f (w.veil cs ts rs) = (f w).veil cs ts rs

section
variable {f g : World → World}

theorem Plain.comp (hf : Plain f) (hg : Plain g) : Plain fun w => g (f w) := by
  intro w cs ts rs
  dsimp only
  rw [hf, hg]

theorem plain_unlist (e : EntryId) : Plain (unlist · e) := by
  intro w cs ts rs
  show (if w.isListed e then _ else _) = (if w.isListed e then _ else w : World).veil cs ts rs
  split <;> rfl

theorem plain_rollBack (e : EntryId) (reason : String) : Plain (rollBack · e reason) :=
  (plain_unlist e).comp (g := (fail · e reason)) fun _ _ _ _ => rfl

theorem plain_retire (e : EntryId) : Plain (retire · e) := by
  intro w cs ts rs
  dsimp only
  cases listed : w.isListed e with
  | true =>
    have listed' : (w.veil cs ts rs).isListed e := listed
    rw [retire_of_listed listed, retire_of_listed listed']
    rfl
  | false =>
    have listed' : (w.veil cs ts rs).isListed e = false := listed
    rw [retire_of_not_listed listed, retire_of_not_listed listed']

theorem plain_sessionEvent (x : SessionEvent) : Plain (sessionEvent · x) := by
  intro w cs ts rs
  have same : (w.veil cs ts rs).opened = w.opened := rfl
  simp only [sessionEvent, same]
  split <;> rfl

theorem plain_sessionEvents (xs : List SessionEvent) : Plain (sessionEvents · xs) := by
  intro w cs ts rs
  induction xs generalizing w with
  | nil => rfl
  | cons x xs ih =>
    have first := plain_sessionEvent x w cs ts rs
    have rest := ih (w.sessionEvent x)
    simp only [sessionEvents, List.foldl_cons] at first rest ⊢
    rw [first, rest]

end

/-! ## Two worlds -/

/-- Worlds that differ in passwords, and in the times of reports, only. -/
structure Alike (w v : World) : Prop where
  shown : v = w.veil v.calls v.tasks v.reports
  calls : w.calls.map Call.conceal = v.calls.map Call.conceal
  tasks : ∀ t, Option.Rel Phase.Alike (w.tasks t) (v.tasks t)
  reports : w.reports.map Directory.Report.untimed = v.reports.map Directory.Report.untimed

variable {w v : World}

theorem Alike.start : Alike {} {} where
  shown := rfl
  calls := rfl
  tasks _ := .none
  reports := rfl

/-- Operations on the other tables keep worlds alike. -/
theorem Alike.plain (h : w.Alike v) {f : World → World} (plain : Plain f) : (f w).Alike (f v) := by
  have own (w : World) : f w = (f w).veil w.calls w.tasks w.reports := plain w w.calls w.tasks w.reports
  have tables (w : World) : (f w).calls = w.calls ∧ (f w).tasks = w.tasks ∧ (f w).reports = w.reports := by
    rw [own]
    exact ⟨rfl, rfl, rfl⟩
  obtain ⟨calls, tasks, reports⟩ := tables w
  obtain ⟨calls', tasks', reports'⟩ := tables v
  refine ⟨?_, ?_, fun t => ?_, ?_⟩
  · rw [calls', tasks', reports', ← plain, ← h.shown]
  · rw [calls, calls', h.calls]
  · rw [tasks, tasks']
    exact h.tasks t
  · rw [reports, reports', h.reports]

theorem Alike.setTask (h : w.Alike v) (t : TaskId) {p q : Phase} (phases : p.Alike q) :
    (w.setTask t p).Alike (v.setTask t q) where
  shown := by
    rw [h.shown]
    rfl
  calls := h.calls
  tasks i := by
    by_cases mine : i = t
    · simp only [World.setTask, mine, put_same]
      exact .some phases
    · simp only [World.setTask, put_other _ _ mine]
      exact h.tasks i
  reports := h.reports

theorem Alike.spawned (h : w.Alike v) : w.spawned = v.spawned := by
  rw [h.shown]
  rfl

theorem Alike.spawn (h : w.Alike v) {p q : Phase} (phases : p.Alike q) :
    (w.spawn p).Alike (v.spawn q) where
  shown := by
    rw [h.shown]
    rfl
  calls := h.calls
  tasks i := by
    by_cases new : i = w.spawned
    · simp only [World.spawn, ← h.spawned, new, put_same]
      exact .some phases
    · simp only [World.spawn, ← h.spawned, put_other _ _ new]
      exact h.tasks i
  reports := h.reports

theorem Alike.call (h : w.Alike v) {c d : Call} (same : c.conceal = d.conceal) :
    (w.call c).Alike (v.call d) where
  shown := by
    rw [h.shown]
    rfl
  calls := by simp only [World.call, List.map_append, h.calls, List.map_cons, List.map_nil, same]
  tasks := h.tasks
  reports := h.reports

theorem Alike.send (h : w.Alike v) {r s : Directory.Report} (same : r.untimed = s.untimed) :
    (w.send r).Alike (v.send s) where
  shown := by
    rw [h.shown]
    rfl
  calls := h.calls
  tasks := h.tasks
  reports := by simp only [World.send, List.map_append, h.reports, List.map_cons, List.map_nil, same]

theorem Alike.finish (h : w.Alike v) (t : TaskId) (r : Result) : (w.finish t r).Alike (v.finish t r) :=
  h.setTask t (.same rfl)

/-- What is read from the other tables is the same. -/
theorem Alike.reads (h : w.Alike v) {α : Type} {f : World → α}
    (plain : ∀ w cs ts rs, f (w.veil cs ts rs) = f w) : f w = f v := by
  rw [h.shown, plain]

theorem Alike.listed (h : w.Alike v) (i : Identity) : w.listed i = v.listed i :=
  h.reads (f := (World.listed · i)) fun _ _ _ _ => rfl

theorem Alike.status (h : w.Alike v) (e : EntryId) : w.status e = v.status e :=
  h.reads (f := (World.status · e)) fun _ _ _ _ => rfl

theorem Alike.answers (h : w.Alike v) (k : CallId) : w.answers k = v.answers k :=
  h.reads (f := (World.answers · k)) fun _ _ _ _ => rfl

/-! ## Steps -/

theorem Alike.bootFailed (h : w.Alike v) (t : TaskId) {a b : Boot.Attempt} (attempts : Attempt.Alike a b)
    (reason : String) : (w.bootFailed t a reason).Alike (v.bootFailed t b reason) := by
  have reports := attempts.report reason
  rw [World.bootFailed, World.bootFailed, attempts.plan.reports, attempts.failure]
  split
  · exact (h.send reports).setTask t (.reporting _ reports)
  · exact h.finish t _

theorem Alike.conclude (h : w.Alike v) (t : TaskId) {c d : Caller} (callers : c.Alike d)
    (r : Except Error EntryId) : (w.conclude t c r).Alike (v.conclude t d r) := by
  cases callers with
  | plain => exact h.finish t _
  | boot attempts =>
    cases r with
    | ok e =>
      simp only [World.conclude, attempts.success]
      exact h.finish t _
    | error e => exact h.bootFailed t attempts _

theorem Alike.ensure (h : w.Alike v) (t : TaskId) {c d : Caller} (callers : c.Alike d) (i : Identity)
    {r s : Option Request} (requests : r.map Request.conceal = s.map Request.conceal) :
    (w.ensure t c i r).Alike (v.ensure t d i s) := by
  have listed := h.listed i
  simp only [World.ensure, ← listed]
  cases w.listed i with
  | some e =>
    have status := h.status e
    have connected : w.isConnected e = v.isConnected e := h.reads (f := (isConnected · e)) fun _ _ _ _ => rfl
    dsimp only
    rw [← status, ← connected]
    cases w.status e with
    | connected =>
      dsimp only
      split
      · exact h.conclude t callers _
      · exact h.plain (plain_retire e)
    | connecting => exact h.setTask t (.joining e callers)
    | disconnected => exact h.plain (plain_unlist e)
  | none =>
    cases r with
    | none =>
      cases s with
      | none => exact h.conclude t callers _
      | some s => cases requests
    | some r =>
      cases s with
      | none => cases requests
      | some s =>
        have same : r.conceal = s.conceal := Option.some.inj requests
        have made : w.made = v.made := h.reads (f := made) fun _ _ _ _ => rfl
        have number : w.calls.length = v.calls.length := by
          simpa using congrArg List.length h.calls
        have calls : (Call.mk i r.credentials r.rule).conceal = (Call.mk i s.credentials s.rule).conceal := by
          simpa [Request.conceal, Call.conceal] using same
        dsimp only
        rw [Request.check_alike same, Entry.placeholder_alike i same, made, number]
        split
        · exact h.conclude t callers _
        · exact ((h.plain (f := (list · (.placeholder i s))) fun _ _ _ _ => rfl).call calls).setTask t
            (.opening _ _ callers)

theorem Alike.resume (h : w.Alike v) (t : TaskId) (e : EntryId) {q z : Sequel} (sequels : q.Alike z) :
    (w.resume t e q).Alike (v.resume t e z) := by
  have failure : (w.entries e).openFailure = (v.entries e).openFailure :=
    h.reads (f := fun w => (w.entries e).openFailure) fun _ _ _ _ => rfl
  cases sequels with
  | removed => exact h.finish t _
  | disconnected => exact h.finish t _
  | clearing is => exact h.setTask t (.same rfl)
  | discarded callers =>
    simp only [World.resume, failure]
    exact h.conclude t callers _

theorem Alike.close (h : w.Alike v) (t : TaskId) (e : EntryId) (s : Option SessionId) {q z : Sequel}
    (sequels : q.Alike z) : (w.close t e s q).Alike (v.close t e s z) := by
  cases s with
  | some s => exact (h.plain (f := (tell · s)) fun _ _ _ _ => rfl).setTask t (.closing e s sequels)
  | none => exact h.resume t e sequels

theorem Alike.closed (h : w.Alike v) (t : TaskId) (e : EntryId) (s : SessionId) {q z : Sequel}
    (sequels : q.Alike z) : (w.closed t e s q).Alike (v.closed t e s z) :=
  (h.plain (plain_sessionEvent (.drop s))).resume t e sequels

theorem Alike.settleOpen (h : w.Alike v) (t : TaskId) {c d : Caller} (callers : c.Alike d) (e : EntryId)
    (k : CallId) (m : Meanwhile) (a : Answer) :
    (w.settleOpen t c e k m a).Alike (v.settleOpen t d e k m a) := by
  cases a with
  | failure x =>
    have rolled := h.plain (plain_rollBack e x.message)
    have failure := rolled.reads (f := fun w => (w.entries e).openFailure) fun _ _ _ _ => rfl
    simp only [World.settleOpen, failure]
    exact rolled.conclude t callers _
  | session name alive =>
    have opened : w.opened = v.opened := h.reads (f := opened) fun _ _ _ _ => rfl
    have delivered := (h.plain (f := (deliver · name k alive)) fun _ _ _ _ => rfl).plain
      (plain_sessionEvents m.delivered)
    have heard : (((w.deliver name k alive).sessionEvents m.delivered).sessions v.opened).notices =
        (((v.deliver name k alive).sessionEvents m.delivered).sessions v.opened).notices :=
      delivered.reads (f := fun w => (w.sessions v.opened).notices) fun _ _ _ _ => rfl
    have subscribed := delivered.plain (plain_sessionEvents m.subscribed)
    have listed := subscribed.reads (f := (isListed · e)) fun _ _ _ _ => rfl
    simp only [World.settleOpen, opened, heard, listed]
    split
    · have attached := subscribed.plain (f := (attach · e v.opened)) fun _ _ _ _ => rfl
      exact (attached.spawn (.same rfl)).conclude t callers _
    · have failed := subscribed.plain (f := (fail · e "removed while connecting")) fun _ _ _ _ => rfl
      exact failed.close t e _ (.discarded callers)

theorem Alike.joined (h : w.Alike v) (t : TaskId) {c d : Caller} (callers : c.Alike d) (e : EntryId) :
    (w.joined t c e).Alike (v.joined t d e) := by
  have verdict : w.verdict e = v.verdict e := h.reads (f := (verdict · e)) fun _ _ _ _ => rfl
  rw [World.joined, World.joined, verdict]
  exact h.conclude t callers _

theorem Alike.remove (h : w.Alike v) (t : TaskId) (e : EntryId) {q z : Sequel} (sequels : q.Alike z) :
    (w.remove t e q).Alike (v.remove t e z) := by
  have session : (w.entries e).session.filter w.isAlive = (v.entries e).session.filter v.isAlive :=
    h.reads (f := fun w => (w.entries e).session.filter w.isAlive) fun _ _ _ _ => rfl
  simp only [World.remove, session]
  exact (h.plain (plain_retire e)).close t e _ sequels

theorem Alike.disconnect (h : w.Alike v) (t : TaskId) (e : EntryId) :
    (w.disconnect t e).Alike (v.disconnect t e) := by
  have session : (w.entries e).session = (v.entries e).session :=
    h.reads (f := fun w => (w.entries e).session) fun _ _ _ _ => rfl
  simp only [World.disconnect, session]
  exact (h.plain (plain_retire e)).close t e _ .disconnected

theorem Alike.bootHosts (h : w.Alike v) (t : TaskId) {p q : Boot.Plan} (plans : Plan.Alike p q) :
    (w.bootHosts t p).Alike (v.bootHosts t q) := by
  have hosts := plans.source.hosts
  rw [World.bootHosts, World.bootHosts]
  cases read : p.source.hosts with
  | error x =>
    cases read' : q.source.hosts with
    | error y =>
      rw [read, read'] at hosts
      cases hosts
      exact h.finish t _
    | ok ss =>
      rw [read, read'] at hosts
      cases hosts
  | ok rs =>
    cases read' : q.source.hosts with
    | error y =>
      rw [read, read'] at hosts
      cases hosts
    | ok ss =>
      rw [read, read'] at hosts
      have listed : rs.map Host.Record.conceal = ss.map Host.Record.conceal := Except.ok.inj hosts
      cases rs with
      | nil =>
        cases ss with
        | nil => exact h.finish t _
        | cons s ss => cases listed
      | cons r rs =>
        cases ss with
        | nil => cases listed
        | cons s ss =>
          have same : r.conceal = s.conceal := (List.cons.inj listed).1
          have identity := (Host.Record.told_alike same).2.2.2
          dsimp only
          rw [identity, Host.Record.nickname_alike same]
          cases s.identity? with
          | none => exact h.finish t _
          | some i =>
            have there := h.listed i
            have connected : (w.listed i).any w.isConnected = (v.listed i).any v.isConnected :=
              h.reads (f := fun w => (w.listed i).any w.isConnected) fun _ _ _ _ => rfl
            dsimp only
            rw [connected, there]
            split
            · exact h.finish t _
            · exact h.setTask t (.bootRules ⟨plans, same, rfl, rfl⟩)

theorem Alike.bootRules (h : w.Alike v) (t : TaskId) {a b : Boot.Attempt} (attempts : Attempt.Alike a b) :
    (w.bootRules t a).Alike (v.bootRules t b) := by
  rw [World.bootRules, World.bootRules, attempts.plan.source.rules _ _ attempts.host, attempts.identity]
  split
  · exact h.bootFailed t attempts _
  · exact h.setTask t (.ensure _ (.boot attempts) (congrArg some (attempts.request _)))

theorem Alike.isReady (h : w.Alike v) {p q : Phase} (phases : p.Alike q) : w.isReady p = v.isReady q := by
  rw [h.shown]
  cases phases with
  | same plain => cases p <;> rfl
  | _ => rfl

theorem Alike.advance (h : w.Alike v) (t : TaskId) (m : Meanwhile) {p q : Phase} (phases : p.Alike q) :
    (w.advance t m p).Alike (v.advance t m q) := by
  cases phases with
  | ensure i callers requests => exact h.ensure t callers i requests
  | opening e k callers =>
    simp only [World.advance, ← h.answers k]
    cases w.answers k with
    | none => exact h
    | some a => exact h.settleOpen t callers e k m a
  | joining e callers => exact h.joined t callers e
  | closing e s sequels => exact h.closed t e s sequels
  | boot plans => exact h.bootHosts t plans
  | bootRules attempts => exact h.bootRules t attempts
  | reporting o reports => exact h
  | same plain =>
    cases p with
    | waitFor i =>
      simp only [World.advance, ← h.listed i]
      split
      · exact h.finish t _
      · exact h.setTask t (.same rfl)
    | settling e =>
      simp only [World.advance, ← h.status e]
      exact h.finish t _
    | remove i =>
      simp only [World.advance, ← h.listed i]
      split
      · exact h.finish t _
      · exact h.remove t _ .removed
    | disconnect i =>
      simp only [World.advance, ← h.listed i]
      cases w.listed i with
      | none => exact h.finish t _
      | some e =>
        have status := h.status e
        dsimp only
        rw [← status]
        split
        · exact h.setTask t (.same rfl)
        · exact h.disconnect t e
    | disconnecting e => exact h.disconnect t e
    | clear =>
      have bridges : w.bridges.map (fun e => (w.entries e).identity) =
          v.bridges.map fun e => (v.entries e).identity :=
        h.reads (f := fun w => w.bridges.map fun e => (w.entries e).identity) fun _ _ _ _ => rfl
      simp only [World.advance, bridges]
      exact h.setTask t (.same rfl)
    | clearing is =>
      cases is with
      | nil => exact h.finish t _
      | cons i is =>
        simp only [World.advance, ← h.listed i]
        split
        · exact h.setTask t (.same rfl)
        · exact h.remove t _ (.clearing is)
    | watch e s heard =>
      have alive : w.isAlive s = v.isAlive s := h.reads (f := (World.isAlive · s)) fun _ _ _ _ => rfl
      simp only [World.advance, ← alive]
      split
      · exact h.setTask t (.same rfl)
      · exact (h.plain (plain_retire e)).finish t _
    | watching e s heard => exact (h.plain (plain_retire e)).finish t _
    | done r => exact h
    | aborted => exact h
    | _ => cases plain

/-- A task is there in both worlds or in none. -/
theorem Alike.phases (h : w.Alike v) (t : TaskId) :
    (w.tasks t = none ∧ v.tasks t = none) ∨
      ∃ p q, w.tasks t = some p ∧ v.tasks t = some q ∧ p.Alike q := by
  have tasks := h.tasks t
  cases mine : w.tasks t with
  | none =>
    cases its : v.tasks t with
    | none => exact .inl ⟨rfl, rfl⟩
    | some q =>
      rw [mine, its] at tasks
      cases tasks
  | some p =>
    cases its : v.tasks t with
    | none =>
      rw [mine, its] at tasks
      cases tasks
    | some q =>
      rw [mine, its] at tasks
      cases tasks with
      | some phases => exact .inr ⟨p, q, rfl, rfl, phases⟩

theorem Alike.step (h : w.Alike v) (t : TaskId) (m : Meanwhile) : (w.step t m).Alike (v.step t m) := by
  obtain ⟨mine, its⟩ | ⟨p, q, mine, its, phases⟩ := h.phases t
  · simp only [World.step, mine, its]
    exact h
  · simp only [World.step, mine, its, h.isReady phases]
    split
    · exact h.advance t m phases
    · exact h

theorem Alike.abort (h : w.Alike v) (t : TaskId) : (w.abort t).Alike (v.abort t) := by
  have aborted {w v : World} (h : w.Alike v) : (w.setTask t .aborted).Alike (v.setTask t .aborted) :=
    h.setTask t (.same rfl)
  obtain ⟨mine, its⟩ | ⟨p, q, mine, its, phases⟩ := h.phases t
  · simp only [World.abort, mine, its]
    exact h
  · simp only [World.abort, mine, its]
    cases phases with
    | opening e k callers => exact aborted (h.plain (plain_rollBack e "open cancelled"))
    | same plain =>
      cases p with
      | opening => cases plain
      | done | aborted | watch | watching => exact h
      | _ => exact aborted h
    | _ => exact aborted h

theorem Alike.answer (h : w.Alike v) (k : CallId) (a : Answer) : (w.answer k a).Alike (v.answer k a) := by
  have number : w.calls.length = v.calls.length := by simpa using congrArg List.length h.calls
  have answers := h.answers k
  simp only [World.answer, number, answers]
  split
  · exact h.plain (f := fun w => { w with answers := put w.answers k (some a) }) fun _ _ _ _ => rfl
  · exact h

theorem Alike.replied (h : w.Alike v) (t : TaskId) : (w.replied t).Alike (v.replied t) := by
  obtain ⟨mine, its⟩ | ⟨p, q, mine, its, phases⟩ := h.phases t
  · simp only [World.replied, mine, its]
    exact h
  · simp only [World.replied, mine, its]
    cases phases with
    | reporting o reports => exact h.finish t _
    | same plain =>
      cases p with
      | reporting => cases plain
      | _ => exact h
    | _ => exact h

/-! ## Runs -/

variable {x y : Event}

theorem Alike.apply (h : w.Alike v) (events : x.Alike y) : (w.apply x).Alike (v.apply y) := by
  cases events with
  | start operations => exact h.spawn operations.start
  | run t m => exact h.step t m
  | answer k a => exact h.answer k a
  | reply t => exact h.replied t
  | session x => exact h.plain (plain_sessionEvent x)
  | abort t => exact h.abort t
  | listen => exact h.plain (f := fun w => { w with listeners := w.listeners + 1 }) fun _ _ _ _ => rfl

theorem Alike.run {xs ys : List Event} (events : List.Forall₂ Event.Alike xs ys) (h : w.Alike v) :
    (w.run xs).Alike (v.run ys) := by
  induction events generalizing w v with
  | nil => exact h
  | cons first _ ih => exact ih (h.apply first)

/-! ## What is told -/

/-- The same is told of two worlds: how boot runs ended, what was reported but for the time, and what
the list of bridges shows. -/
structure ToldAlike (w v : World) : Prop where
  outcomes : ∀ t, Boot.outcome? w t = Boot.outcome? v t
  reports : w.reports.map Directory.Report.untimed = v.reports.map Directory.Report.untimed
  bridges : w.bridges.map w.info = v.bridges.map v.info

theorem Alike.told (h : w.Alike v) : w.ToldAlike v where
  outcomes t := by
    obtain ⟨mine, its⟩ | ⟨p, q, mine, its, phases⟩ := h.phases t
    · rw [Boot.outcome?, Boot.outcome?, mine, its]
    · rw [Boot.outcome?, Boot.outcome?, mine, its]
      cases phases <;> rfl
  reports := h.reports
  bridges := h.reads (f := fun w => w.bridges.map w.info) fun _ _ _ _ => rfl

/-- Worlds to which the same happened but for passwords tell the same. -/
theorem told_run {xs ys : List Event} (events : List.Forall₂ Event.Alike xs ys) :
    (run {} xs).ToldAlike (run {} ys) :=
  (Alike.start.run events).told

/-- **Passwords are told nobody.** Neither credentials nor hosts tell their password. Whatever happens
in whichever order, with the same answers of the transport, boot runs over two sources that differ in
passwords only, such as two such files, end in the same way, report the same but for the time, and
leave bridges of which the same is shown. -/
theorem passwords_untold :
    (∀ c d : Credentials, c.conceal = d.conceal →
      c.debug = d.debug ∧ c.target = d.target ∧ c.check = d.check) ∧
    (∀ r s : Host.Record, r.conceal = s.conceal →
      r.debug = s.debug ∧ r.displayName = s.displayName ∧ r.uri? = s.uri? ∧ r.identity? = s.identity? ∧
        ∀ rules, (r.credentials rules).target = (s.credentials rules).target ∧
          (r.credentials rules).check = (s.credentials rules).check) ∧
    (∀ xs ys, List.Forall₂ Event.Alike xs ys → (run {} xs).ToldAlike (run {} ys)) ∧
    ∀ (path path' : Disk.Path) (time time' : String) (d d' : Disk) (b b' : Host.Book),
      (Host.Store.load path time d).1 = .ok b → (Host.Store.load path' time' d').1 = .ok b' →
      b.conceal = b'.conceal → ∀ reports now now' xs ys, List.Forall₂ Event.Alike xs ys →
        (run {} (.start (.boot ⟨Host.Store.source path time d, reports, now⟩) :: xs)).ToldAlike
          (run {} (.start (.boot ⟨Host.Store.source path' time' d', reports, now'⟩) :: ys)) := by
  refine ⟨fun c d same => Credentials.told_alike same, fun r s same => ?_, fun xs ys => told_run, ?_⟩
  · obtain ⟨debug, name, uri, identity⟩ := Host.Record.told_alike same
    refine ⟨debug, name, uri, identity, fun rules => ?_⟩
    exact (Credentials.told_alike (Host.Record.credentials_alike same rules)).2
  · intro path path' time time' d d' b b' load load' same reports now now' xs ys events
    have plans : Plan.Alike ⟨Host.Store.source path time d, reports, now⟩
        ⟨Host.Store.source path' time' d', reports, now'⟩ :=
      ⟨Host.Store.source_alike load load' same, rfl⟩
    exact told_run (.cons (.start (.boot plans)) events)

def guarded (password : String) : Host.Source :=
  ⟨.ok [⟨"box", "ssh", "alice", "10.0.0.5", 22, password, "a@example.com", 0⟩], fun _ => .ok []⟩

def refused (password now : String) : List Event :=
  [.start (.boot ⟨guarded password, true, now⟩), .run 0 {}, .run 0 {}, .run 0 {},
    .answer 0 (.failure (.authentication "denied")), .run 0 {}, .reply 0 (.ok 7)]

/-- The transport is called with two passwords, and the same is told. -/
theorem passwords_untold_refused :
    (run {} (refused "open" "20260101_000000")).calls.map (·.credentials.password) = ["open"] ∧
      (run {} (refused "sesame" "20260102_000000")).calls.map (·.credentials.password) = ["sesame"] ∧
      (run {} (refused "open" "20260101_000000")).reports.length = 1 ∧
      (run {} (refused "open" "20260101_000000")).ToldAlike
        (run {} (refused "sesame" "20260102_000000")) := by
  refine ⟨by decide +kernel, by decide +kernel, by decide +kernel, ?_⟩
  have plans : Plan.Alike ⟨guarded "open", true, "20260101_000000"⟩
      ⟨guarded "sesame", true, "20260102_000000"⟩ := ⟨⟨rfl, fun _ _ _ => rfl⟩, rfl⟩
  exact passwords_untold.2.2.1 _ _ (.cons (.start (.boot plans)) (.cons (.run _ _) (.cons (.run _ _)
    (.cons (.run _ _) (.cons (.answer _ _) (.cons (.run _ _) (.cons (.reply _ _ _) .nil)))))))

end World
end Bridge
end BridgeKeeper
