import BridgeKeeper.Proofs.Bridge.Effect

/-!
# The moves of a world

Whatever happens, the world makes one of a few moves: a task passes to its next phase and touches
no bridge, a bridge is listed, ended, taken back, shown as connected or discarded, a session
changes, or something new arrives. `Move` lists them with all that holds when they are made, and
`apply_move` says that there are no others.
-/
namespace BridgeKeeper.Bridge

def failedPhase (a : Boot.Attempt) (reason : String) : Phase :=
  if a.plan.reports then .reporting (a.report reason) (a.failure reason)
  else .done (.booted (a.failure reason))

def failedReports (a : Boot.Attempt) (reason : String) : List Directory.Report :=
  if a.plan.reports then [a.report reason] else []

namespace Caller

/-- The phase after the return of a bridge or an error. -/
def after : Caller → Except Error EntryId → Phase
  | plain, r => .done (.ensured r)
  | boot a, .ok e => .done (.booted (a.success e))
  | boot a, .error x => failedPhase a x.message

def sent : Caller → Except Error EntryId → List Directory.Report
  | boot a, .error x => failedReports a x.message
  | _, _ => []

end Caller

namespace Sequel

/-- The phase after a session of a bridge is closed. -/
def after (w : World) (e : EntryId) : Sequel → Phase
  | removed => .done (.removed (some e))
  | disconnected => .done (.disconnected (.ok ()))
  | clearing is => .clearing is
  | discarded c => c.after (.error (w.entries e).openFailure)

def sent (w : World) (e : EntryId) : Sequel → List Directory.Report
  | discarded c => c.sent (.error (w.entries e).openFailure)
  | _ => []

/-- The phase after a bridge is ended: its session is closed first, if there is one to close. -/
def upon (q : Sequel) (w : World) (e : EntryId) : Option SessionId → Phase
  | some s => .closing e s q
  | none => q.after w e

end Sequel

namespace World

def proceed (w : World) (t : TaskId) (q : Phase) (rs : List Directory.Report) : World :=
  { w with tasks := put w.tasks t (some q), reports := w.reports ++ rs }

theorem setTask_eq (w : World) (t : TaskId) (q : Phase) : w.setTask t q = w.proceed t q [] := by
  simp [setTask, proceed]

theorem finish_eq (w : World) (t : TaskId) (r : Result) : w.finish t r = w.proceed t (.done r) [] :=
  setTask_eq w t _

theorem bootFailed_eq (w : World) (t : TaskId) (a : Boot.Attempt) (reason : String) :
    w.bootFailed t a reason = w.proceed t (failedPhase a reason) (failedReports a reason) := by
  by_cases h : a.plan.reports
  · simp [bootFailed, failedPhase, failedReports, h, send, setTask, proceed]
  · simp [bootFailed, failedPhase, failedReports, h, finish_eq]

theorem conclude_eq (w : World) (t : TaskId) (c : Caller) (r : Except Error EntryId) :
    w.conclude t c r = w.proceed t (c.after r) (c.sent r) := by
  cases c with
  | plain => exact finish_eq w t _
  | boot a =>
    cases r with
    | ok e => exact finish_eq w t _
    | error x => exact bootFailed_eq w t a x.message

theorem resume_eq (w : World) (t : TaskId) (e : EntryId) (q : Sequel) :
    w.resume t e q = w.proceed t (q.after w e) (q.sent w e) := by
  cases q with
  | removed | disconnected => exact finish_eq w t _
  | clearing is => exact setTask_eq w t _
  | discarded c => exact conclude_eq w t c _

theorem closed_eq (w : World) (t : TaskId) (e : EntryId) (s : SessionId) (q : Sequel) :
    w.closed t e s q = (w.sessionEvent (.drop s)).proceed t (q.after w e) (q.sent w e) := by
  rw [closed, resume_eq, sessionEvent_eq]
  rfl

/-- A task that ends a bridge has its session closed before it goes on. -/
theorem close_eq {q : Sequel} (calm : ∀ v e, q.sent v e = []) (w : World) (t : TaskId) (e : EntryId)
    (s : Option SessionId) : w.close t e s q = (w.tells s).proceed t (q.upon w e s) [] := by
  cases s with
  | some s => exact setTask_eq _ t _
  | none =>
    rw [close, resume_eq, calm]
    rfl

/-- A task that stays in its phase changes nothing. -/
theorem proceed_self {w : World} {t : TaskId} {p : Phase} (h : w.tasks t = some p) :
    w.proceed t p [] = w := by
  have same : put w.tasks t (some p) = w.tasks := by
    funext u
    by_cases hu : u = t
    · simp [put, hu, h]
    · simp [put, hu]
  simp [proceed, same]

end World

/-- Steps that touch no bridge: from a phase to the next, with the reports that are sent. -/
inductive Passes (w : World) : Phase → Phase → List Directory.Report → Prop
  /-- An answer without a new bridge: a shared one, or an error. -/
  | ensured {c i r a} :
    (w.listed i = none ∧ (r = none ∧ a = .error (.notFound i) ∨
      ∃ q fault, r = some q ∧ q.check = .error fault ∧ a = .error (.invalidCredentials fault)) ∨
      ∃ e, w.listed i = some e ∧ w.isConnected e ∧ a = .ok e) →
    Passes w (.ensure c i r) (c.after a) (c.sent a)
  | join {c i r e} : w.listed i = some e → w.status e = .connecting →
    Passes w (.ensure c i r) (.joining c e) []
  | joined {c e} : w.status e ≠ .connecting →
    Passes w (.joining c e) (c.after (w.verdict e)) (c.sent (w.verdict e))
  | unfound {i} : w.listed i = none → Passes w (.waitFor i) (.done (.settled none)) []
  | found {i e} : w.listed i = some e → Passes w (.waitFor i) (.settling e) []
  | settled {e} : w.status e ≠ .connecting →
    Passes w (.settling e) (.done (.settled (some (w.status e)))) []
  | nothingRemoved {i} : w.listed i = none → Passes w (.remove i) (.done (.removed none)) []
  | notConnected {i} : w.listed i = none →
    Passes w (.disconnect i) (.done (.disconnected (.error (.notFound i)))) []
  | await {i e} : w.listed i = some e → w.status e = .connecting →
    Passes w (.disconnect i) (.disconnecting e) []
  | clear : Passes w .clear (.clearing (w.bridges.map fun e => (w.entries e).identity)) []
  | cleared : Passes w (.clearing []) (.done .cleared) []
  | skip {i is} : w.listed i = none → Passes w (.clearing (i :: is)) (.clearing is) []
  | watch {e s heard} : w.isAlive s → Passes w (.watch e s heard) (.watching e s heard) []
  | bootOver {p} (o : Boot.Outcome) : Passes w (.boot p) (.done (.booted o)) []
  | bootFound {p} (a : Boot.Attempt) : Passes w (.boot p) (.bootRules a) []
  | bootFailed {a} (reason : String) :
    Passes w (.bootRules a) (failedPhase a reason) (failedReports a reason)
  | bootAsks {a rules} :
    Passes w (.bootRules a) (.ensure (.boot a) a.identity (some (a.request rules))) []

/-- Steps that end a bridge, if it is still listed: from a phase, with the session that is told to close,
to the next. -/
inductive Ends (w : World) (e : EntryId) : Phase → Option SessionId → Phase → Prop
  /-- Its session has died. -/
  | replace {c i r} : w.listed i = some e → w.status e = .connected → w.isConnected e = false →
    Ends w e (.ensure c i r) none (.ensure c i r)
  | remove {i} : w.listed i = some e →
    Ends w e (.remove i) (w.liveSession e) (Sequel.removed.upon w e (w.liveSession e))
  | clear {i is} : w.listed i = some e →
    Ends w e (.clearing (i :: is)) (w.liveSession e)
      ((Sequel.clearing is).upon w e (w.liveSession e))
  | disconnect {i} : w.listed i = some e → w.status e ≠ .connecting →
    Ends w e (.disconnect i) (w.entries e).session
      (Sequel.disconnected.upon w e (w.entries e).session)
  | settled : w.status e ≠ .connecting →
    Ends w e (.disconnecting e) (w.entries e).session
      (Sequel.disconnected.upon w e (w.entries e).session)
  | dead {s heard} : w.isAlive s = false → Ends w e (.watch e s heard) none (.done .watched)
  | ended {s heard} : w.hasEnded s heard → Ends w e (.watching e s heard) none (.done .watched)

/-- What who opens a bridge returns at once, by the answer of the transport. -/
inductive Answered (w : World) (e : EntryId) : Answer → Except Error EntryId → Prop
  | failed (x : Ssh.Error) :
    Answered w e (.failure x) (.error (.openFailure (w.entries e).identity x.message))
  | connected {name alive} : w.isListed e → Answered w e (.session name alive) (.ok e)

/-- What is returned at once to who looks for the bridge of an identity. -/
inductive Finds (w : World) (i : Identity) : Option Request → Except Error EntryId → Prop
  | shared {r e} : w.listed i = some e → w.isConnected e → Finds w i r (.ok e)
  | unfound : w.listed i = none → Finds w i none (.error (.notFound i))
  | refused {q fault} : w.listed i = none → q.check = .error fault →
    Finds w i (some q) (.error (.invalidCredentials fault))

/-- How the search for the bridge of an identity ends: something is returned, the task opens a bridge of
its own, or it waits for one that is connecting. -/
inductive Exits (w : World) (t : TaskId) (c : Caller) (i : Identity) (r : Option Request) :
    World → Prop
  | returns {a} : Finds w i r a → Exits w t c i r (w.proceed t (c.after a) (c.sent a))
  | opens {q} : w.listed i = none → r = some q → q.check = .ok () →
    Exits w t c i r (((w.list (.placeholder i q)).call ⟨i, q.credentials, q.rule⟩).proceed t
      (.opening c w.made w.calls.length) [])
  | waits {e} : w.listed i = some e → w.status e = .connecting →
    Exits w t c i r (w.proceed t (.joining c e) [])

/-- What a boot run sees when it looks for a bridge of the default host, with its phase afterwards. -/
inductive Looks (w : World) (p : Boot.Plan) : Phase → Prop
  | unread {x} : p.source.hosts = .error x → Looks w p (.done (.booted (.failed none x.message)))
  | noHosts : p.source.hosts = .ok [] → Looks w p (.done (.booted .noHosts))
  | skipped {h rest} : p.source.hosts = .ok (h :: rest) → h.identity? = none →
    Looks w p (.done (.booted (.skipped h.nickname)))
  | reused {h rest i e} : p.source.hosts = .ok (h :: rest) → h.identity? = some i →
    w.listed i = some e → w.isConnected e → Looks w p (.done (.booted (.reused i)))
  | found {h rest i} : p.source.hosts = .ok (h :: rest) → h.identity? = some i →
    (∀ e, w.listed i = some e → w.isConnected e = false) →
    Looks w p (.bootRules ⟨p, h, i, w.listed i⟩)

namespace World

/-- The world in which a session was delivered and what happened to it before its bridge is looked
for. -/
def received (w : World) (k : CallId) (m : Meanwhile) (name : String) (alive : Bool) : World :=
  ((w.deliver name k alive).sessionEvents m.delivered).sessionEvents m.subscribed

/-- How often the session had sent its notification when it was subscribed to. -/
def heardBy (w : World) (k : CallId) (m : Meanwhile) (name : String) (alive : Bool) : Nat :=
  (((w.deliver name k alive).sessionEvents m.delivered).sessions w.opened).notices

end World

namespace World

/-- A session that is received changes the sessions alone. -/
theorem received_eq (w : World) (k : CallId) (m : Meanwhile) (name : String) (alive : Bool) :
    w.received k m name alive =
      { w with sessions := (w.received k m name alive).sessions, opened := w.opened + 1 } := by
  rw [received, sessionEvents_eq _ m.subscribed, sessionEvents_eq _ m.delivered]
  rfl

end World

/-- Phases that an abort ends without more. -/
def Phase.stops : Phase → Prop
  | opening .. | watch .. | watching .. | done _ | aborted => False
  | _ => True

/-- All that an event can do. -/
inductive Move (w : World) : Event → World → Prop
  | rest (x) : Move w x w
  | start (o : Operation) : Move w (.start o) (w.spawn o.start)
  | answer {k a} : k < w.calls.length → w.answers k = none →
    Move w (.answer k a) { w with answers := put w.answers k (some a) }
  | listen : Move w .listen { w with listeners := w.listeners + 1 }
  | session {x} : x.session < w.opened →
    Move w (.session x)
      { w with sessions := put w.sessions x.session (x.apply (w.sessions x.session)) }
  | reply {t y r o} : w.tasks t = some (.reporting r o) →
    Move w (.reply t y) (w.proceed t (.done (.booted o)) [])
  | abort {t p} : w.tasks t = some p → p.stops → Move w (.abort t) (w.proceed t .aborted [])
  | cancel {t c e k} : w.tasks t = some (.opening c e k) →
    Move w (.abort t) ((w.rollBack e "open cancelled").proceed t .aborted [])
  | pass {t m p q rs} : w.tasks t = some p → Passes w p q rs → Move w (.run t m) (w.proceed t q rs)
  | ends {t m e p s q} : w.tasks t = some p → Ends w e p s q →
    Move w (.run t m) (((w.retire e).tells s).proceed t q [])
  | closed {t m e s q} : w.tasks t = some (.closing e s q) →
    Move w (.run t m) ((w.sessionEvent (.drop s)).proceed t (q.after w e) (q.sent w e))
  | unlist {t m c i r e} : w.tasks t = some (.ensure c i r) → w.listed i = some e →
    w.status e = .disconnected → Move w (.run t m) (w.unlist e)
  | place {t m c i r} : w.tasks t = some (.ensure c i (some r)) → w.listed i = none →
    r.check = .ok () →
    Move w (.run t m) (((w.list (.placeholder i r)).call ⟨i, r.credentials, r.rule⟩).proceed t
      (.opening c w.made w.calls.length) [])
  | fail {t m c e k x} : w.tasks t = some (.opening c e k) → w.answers k = some (.failure x) →
    Move w (.run t m) ((w.rollBack e x.message).proceed t
      (c.after (.error (.openFailure (w.entries e).identity x.message)))
      (c.sent (.error (.openFailure (w.entries e).identity x.message))))
  | commit {t m c e k name alive} : w.tasks t = some (.opening c e k) →
    w.answers k = some (.session name alive) → w.isListed e →
    Move w (.run t m)
      ((((w.received k m name alive).attach e w.opened).spawn
        (.watch e w.opened (w.heardBy k m name alive))).proceed t (c.after (.ok e))
          (c.sent (.ok e)))
  | discard {t m c e k name alive} : w.tasks t = some (.opening c e k) →
    w.answers k = some (.session name alive) → w.isListed e = false →
    Move w (.run t m)
      ((((w.received k m name alive).fail e "removed while connecting").tell w.opened).proceed t
        (.closing e w.opened (.discarded c)) [])

namespace World

/-- One round of the search for the bridge of an identity ends the search, or takes a bridge off the list
whose session has died or that is disconnected. -/
theorem ensure_cases (w : World) (t : TaskId) (c : Caller) (i : Identity) (r : Option Request) :
    Exits w t c i r (w.ensure t c i r) ∨ ∃ e, w.listed i = some e ∧
      (w.status e = .connected ∧ w.isConnected e = false ∧ w.ensure t c i r = w.retire e ∨
        w.status e = .disconnected ∧ w.ensure t c i r = w.unlist e) := by
  cases hi : w.listed i with
  | none =>
    refine Or.inl ?_
    cases r with
    | none =>
      simp only [ensure, hi, conclude_eq]
      exact .returns (.unfound hi)
    | some q =>
      cases hq : q.check with
      | error fault =>
        simp only [ensure, hi, hq, conclude_eq]
        exact .returns (.refused hi hq)
      | ok _ =>
        simp only [ensure, hi, hq, setTask_eq]
        exact .opens hi rfl hq
  | some e =>
    cases hs : w.status e with
    | connecting =>
      simp only [ensure, hi, hs, setTask_eq]
      exact Or.inl (.waits hi hs)
    | disconnected => exact Or.inr ⟨e, rfl, Or.inr ⟨hs, by simp only [ensure, hi, hs]⟩⟩
    | connected =>
      cases hc : w.isConnected e with
      | true =>
        simp only [ensure, hi, hs, hc, if_true, conclude_eq]
        exact Or.inl (.returns (.shared hi hc))
      | false => exact Or.inr ⟨e, rfl, Or.inl ⟨hs, hc, by simp [ensure, hi, hs, hc]⟩⟩

theorem ensure_move {w : World} {t : TaskId} {m : Meanwhile} {c : Caller} {i : Identity}
    {r : Option Request} (ht : w.tasks t = some (.ensure c i r)) :
    Move w (.run t m) (w.ensure t c i r) := by
  rcases w.ensure_cases t c i r with exits | ⟨e, hi, ⟨hs, dead, went⟩ | ⟨hs, went⟩⟩
  · generalize w.ensure t c i r = v at exits
    cases exits with
    | returns found =>
      cases found with
      | shared hi hc => exact .pass ht (.ensured (.inr ⟨_, hi, hc, rfl⟩))
      | unfound hi => exact .pass ht (.ensured (.inl ⟨hi, .inl ⟨rfl, rfl⟩⟩))
      | refused hi hq => exact .pass ht (.ensured (.inl ⟨hi, .inr ⟨_, _, rfl, hq, rfl⟩⟩))
    | opens hi asked hq =>
      subst asked
      exact .place ht hi hq
    | waits hi hs => exact .pass ht (.join hi hs)
  · rw [went]
    have move := Move.ends (m := m) ht (.replace hi hs dead)
    rwa [tells, proceed_self (by rw [retire_tasks, ht])] at move
  · rw [went]
    exact .unlist ht hi hs

theorem openFailure_rollBack (w : World) (e : EntryId) (reason : String) :
    ((w.rollBack e reason).entries e).openFailure =
      .openFailure (w.entries e).identity reason := by
  simp [rollBack_eq, put_same, Entry.openFailure]

theorem settleOpen_of_listed {w : World} {e : EntryId} (here : w.isListed e) (t : TaskId) (c : Caller)
    (k : CallId) (m : Meanwhile) (name : String) (alive : Bool) :
    w.settleOpen t c e k m (.session name alive) =
      (((w.received k m name alive).attach e w.opened).spawn
        (.watch e w.opened (w.heardBy k m name alive))).proceed t (c.after (.ok e))
          (c.sent (.ok e)) := by
  have listed : (w.received k m name alive).isListed e := by
    rw [received_eq]
    exact here
  rw [received] at listed
  simp only [settleOpen, listed, if_true, conclude_eq]
  rfl

theorem settleOpen_of_not_listed {w : World} {e : EntryId} (gone : w.isListed e = false) (t : TaskId)
    (c : Caller) (k : CallId) (m : Meanwhile) (name : String) (alive : Bool) :
    w.settleOpen t c e k m (.session name alive) =
      (((w.received k m name alive).fail e "removed while connecting").tell w.opened).proceed t
        (.closing e w.opened (.discarded c)) [] := by
  have unlisted : (w.received k m name alive).isListed e = false := by
    rw [received_eq]
    exact gone
  rw [received] at unlisted
  simp only [settleOpen, unlisted, Bool.false_eq_true, if_false, close, setTask_eq]
  rfl

theorem settleOpen_failure (w : World) (t : TaskId) (c : Caller) (e : EntryId) (k : CallId)
    (m : Meanwhile) (x : Ssh.Error) : w.settleOpen t c e k m (.failure x) =
      (w.rollBack e x.message).proceed t
        (c.after (.error (.openFailure (w.entries e).identity x.message)))
        (c.sent (.error (.openFailure (w.entries e).identity x.message))) := by
  rw [settleOpen, openFailure_rollBack, conclude_eq]

theorem settleOpen_move {w : World} {t : TaskId} {m : Meanwhile} {c : Caller} {e : EntryId}
    {k : CallId} {a : Answer} (ht : w.tasks t = some (.opening c e k))
    (ha : w.answers k = some a) : Move w (.run t m) (w.settleOpen t c e k m a) := by
  cases a with
  | failure x =>
    rw [settleOpen_failure]
    exact .fail ht ha
  | session name alive =>
    cases h : w.isListed e with
    | true =>
      rw [settleOpen_of_listed h]
      exact .commit ht ha h
    | false =>
      rw [settleOpen_of_not_listed h]
      exact .discard ht ha h

/-- Who ends a bridge goes on as if it had not been ended. -/
theorem upon_retire (q : Sequel) (w : World) (e : EntryId) (s : Option SessionId) :
    q.upon (w.retire e) e s = q.upon w e s := by
  have same : ((w.retire e).entries e).openFailure = (w.entries e).openFailure := by
    rw [retire_entries]
    rfl
  cases s with
  | some s => rfl
  | none => cases q <;> simp only [Sequel.upon, Sequel.after, same]

/-- Removing a bridge ends it and closes its session if that is alive. -/
theorem remove_eq {q : Sequel} (calm : ∀ v e, q.sent v e = []) (w : World) (t : TaskId)
    (e : EntryId) : w.remove t e q =
      ((w.retire e).tells (w.liveSession e)).proceed t (q.upon w e (w.liveSession e)) [] := by
  rw [remove, close_eq calm, upon_retire]
  rfl

theorem disconnect_eq (w : World) (t : TaskId) (e : EntryId) : w.disconnect t e =
    ((w.retire e).tells (w.entries e).session).proceed t
      (Sequel.disconnected.upon w e (w.entries e).session) [] := by
  rw [disconnect, close_eq fun _ _ => rfl, upon_retire]

/-- The first step of a boot run touches no bridge. -/
theorem bootHosts_looks (w : World) (t : TaskId) (p : Boot.Plan) :
    ∃ q, w.bootHosts t p = w.proceed t q [] ∧ Looks w p q := by
  have finishes {o : Boot.Outcome} (looks : Looks w p (.done (.booted o))) :
      ∃ q, w.finish t (.booted o) = w.proceed t q [] ∧ Looks w p q :=
    ⟨_, finish_eq w t _, looks⟩
  rw [bootHosts]
  split
  · next read => exact finishes (.unread read)
  · next read => exact finishes (.noHosts read)
  · next read =>
    split
    · next unnamed => exact finishes (.skipped read unnamed)
    · next names =>
      split
      · next there =>
        obtain ⟨e, here, connected⟩ := (Option.any_eq_true _ _).mp there
        exact finishes (.reused read names here connected)
      · next absent =>
        refine ⟨_, setTask_eq w t _, .found read names fun e here => ?_⟩
        simpa [here] using absent

theorem bootHosts_move {w : World} {t : TaskId} {m : Meanwhile} {p : Boot.Plan}
    (ht : w.tasks t = some (.boot p)) : Move w (.run t m) (w.bootHosts t p) := by
  obtain ⟨q, went, looks⟩ := w.bootHosts_looks t p
  rw [went]
  cases looks with
  | found => exact .pass ht (.bootFound _)
  | _ => exact .pass ht (.bootOver _)

theorem bootRules_move {w : World} {t : TaskId} {m : Meanwhile} {a : Boot.Attempt}
    (ht : w.tasks t = some (.bootRules a)) : Move w (.run t m) (w.bootRules t a) := by
  rw [bootRules]
  split
  · rw [bootFailed_eq]
    exact .pass ht (.bootFailed _)
  · rw [setTask_eq]
    exact .pass ht .bootAsks

theorem advance_move {w : World} {t : TaskId} {m : Meanwhile} {p : Phase}
    (ht : w.tasks t = some p) (ready : w.isReady p) : Move w (.run t m) (w.advance t m p) := by
  cases p with
  | ensure c i r => exact ensure_move ht
  | opening c e k =>
    cases ha : w.answers k with
    | none => simp [isReady, ha] at ready
    | some a =>
      simp only [advance, ha]
      exact settleOpen_move ht ha
  | joining c e =>
    simp only [advance, joined, conclude_eq]
    exact .pass ht (.joined (by simpa [isReady] using ready))
  | waitFor i =>
    cases hi : w.listed i with
    | none =>
      simp only [advance, hi, finish_eq]
      exact .pass ht (.unfound hi)
    | some e =>
      simp only [advance, hi, setTask_eq]
      exact .pass ht (.found hi)
  | settling e =>
    simp only [advance, finish_eq]
    exact .pass ht (.settled (by simpa [isReady] using ready))
  | remove i =>
    cases hi : w.listed i with
    | none =>
      simp only [advance, hi, finish_eq]
      exact .pass ht (.nothingRemoved hi)
    | some e =>
      simp only [advance, hi]
      rw [remove_eq fun _ _ => rfl]
      exact .ends ht (.remove hi)
  | disconnect i =>
    cases hi : w.listed i with
    | none =>
      simp only [advance, hi, finish_eq]
      exact .pass ht (.notConnected hi)
    | some e =>
      by_cases hs : w.status e = .connecting
      · simp only [advance, hi, hs, if_true, setTask_eq]
        exact .pass ht (.await hi hs)
      · simp only [advance, hi, hs, if_false, disconnect_eq]
        exact .ends ht (.disconnect hi hs)
  | disconnecting e =>
    simp only [advance, disconnect_eq]
    exact .ends ht (.settled (by simpa [isReady] using ready))
  | clear =>
    simp only [advance, setTask_eq]
    exact .pass ht .clear
  | clearing is =>
    cases is with
    | nil =>
      simp only [advance, finish_eq]
      exact .pass ht .cleared
    | cons i is =>
      cases hi : w.listed i with
      | none =>
        simp only [advance, hi, setTask_eq]
        exact .pass ht (.skip hi)
      | some e =>
        simp only [advance, hi]
        rw [remove_eq fun _ _ => rfl]
        exact .ends ht (.clear hi)
  | closing e s q =>
    simp only [advance, closed_eq]
    exact .closed ht
  | watch e s heard =>
    cases alive : w.isAlive s with
    | true =>
      simp only [advance, alive, if_true, setTask_eq]
      exact .pass ht (.watch alive)
    | false =>
      simp only [advance, alive, Bool.false_eq_true, if_false, finish_eq]
      exact .ends ht (.dead alive)
  | watching e s heard =>
    simp only [advance, finish_eq]
    exact .ends ht (.ended ready)
  | boot p => exact bootHosts_move ht
  | bootRules a => exact bootRules_move ht
  | reporting r o => simp [isReady] at ready
  | done r => simp [isReady] at ready
  | aborted => simp [isReady] at ready

theorem abort_move (w : World) (t : TaskId) : Move w (.abort t) (w.abort t) := by
  cases ht : w.tasks t with
  | none =>
    simp only [abort, ht]
    exact .rest _
  | some p =>
    cases p with
    | opening c e k =>
      simp only [abort, ht, setTask_eq]
      exact .cancel ht
    | watch | watching | done | aborted =>
      simp only [abort, ht]
      exact .rest _
    | _ =>
      simp only [abort, ht, setTask_eq]
      exact .abort ht trivial

/-- Whatever happens is one of the moves. -/
theorem apply_move (w : World) (x : Event) : Move w x (w.apply x) := by
  cases x with
  | start o => exact .start o
  | run t m =>
    simp only [apply, step]
    cases ht : w.tasks t with
    | none => exact .rest _
    | some p =>
      by_cases ready : w.isReady p
      · simp only [ready, if_true]
        exact advance_move ht ready
      · simp only [ready]
        exact .rest _
  | answer k a =>
    simp only [apply, answer]
    split
    · next h => exact .answer h.1 h.2
    · exact .rest _
  | reply t r =>
    simp only [apply, replied]
    split
    · next ht =>
      rw [finish_eq]
      exact .reply ht
    · exact .rest _
  | session x =>
    simp only [apply, sessionEvent]
    split
    · next h => exact .session h
    · exact .rest _
  | abort t => exact abort_move w t
  | listen => exact .listen

/-- An opener that was answered takes its answer. -/
theorem apply_opening {w : World} {t : TaskId} {c : Caller} {e : EntryId} {k : CallId} {a : Answer}
    (ht : w.tasks t = some (.opening c e k)) (ha : w.answers k = some a) (m : Meanwhile) :
    w.apply (.run t m) = w.settleOpen t c e k m a := by
  simp [apply, step, ht, isReady, advance, ha]

/-- Who waits for a session to be closed goes on with the session dead. -/
theorem apply_closing {w : World} {t : TaskId} {e : EntryId} {s : SessionId} {q : Sequel}
    (ht : w.tasks t = some (.closing e s q)) (m : Meanwhile) :
    w.apply (.run t m) = (w.sessionEvent (.drop s)).proceed t (q.after w e) (q.sent w e) := by
  simp only [apply, step, ht, isReady, if_true, advance, closed_eq]

/-- A boot run that has not looked yet looks. -/
theorem apply_boot {w : World} {t : TaskId} {p : Boot.Plan} (ht : w.tasks t = some (.boot p))
    (m : Meanwhile) : ∃ q, w.apply (.run t m) = w.proceed t q [] ∧ Looks w p q := by
  simp only [apply, step, ht, isReady, if_true, advance]
  exact w.bootHosts_looks t p

/-- It is in the phase that belongs to what it sees. -/
theorem looks_of_apply {w : World} {t : TaskId} {p : Boot.Plan} {q : Phase} {m : Meanwhile}
    (ht : w.tasks t = some (.boot p)) (hq : (w.apply (.run t m)).tasks t = some q) : Looks w p q := by
  obtain ⟨q', went, looks⟩ := apply_boot ht m
  rw [went, proceed] at hq
  simp only [put_same, Option.some.injEq] at hq
  exact hq ▸ looks

end World
end BridgeKeeper.Bridge
