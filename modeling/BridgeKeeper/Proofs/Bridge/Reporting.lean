import BridgeKeeper.Proofs.Bridge.Booting
import BridgeKeeper.Proofs.Bridge.Fanout

/-!
# What a boot run touches, and what it reports

A boot run that ends without a bridge of its own and without a failure of its host touches nothing. One
that fails to get the bridge of the default host reports that once, where there is someone to report
to, and then waits for a reply that has no say in the outcome.
-/
namespace BridgeKeeper

namespace Boot

def Outcome.IsIdle : Outcome → Prop
  | noHosts | skipped _ | reused _ | failed none _ => True
  | opened _ | failed (some _) _ => False

structure Attempt.Of (a : Attempt) (p : Plan) : Prop where
  plan : a.plan = p
  host : ∃ rest, p.source.hosts = .ok (a.host :: rest)
  names : a.host.identity? = some a.identity

/-- What is reported along with an outcome: a failure of the default host where there is someone to
report to, and nothing else. -/
inductive Reported (p : Plan) : Outcome → List Directory.Report → Prop
  | failure {a : Attempt} {reason : String} : a.Of p → p.reports →
    Reported p (a.failure reason) [a.report reason]
  | mute {o : Outcome} : (p.reports = false ∨ ∀ i reason, o ≠ .failed (some i) reason) →
    Reported p o []

namespace Reported

variable {p : Plan} {o : Outcome} {rs : List Directory.Report}

theorem eq_nil (h : Reported p o rs)
    (mute : p.reports = false ∨ ∀ i reason, o ≠ .failed (some i) reason) : rs = [] := by
  cases h with
  | mute => rfl
  | failure of wanted =>
    rcases mute with unwanted | other
    · exact absurd (unwanted.symm.trans wanted) Bool.false_ne_true
    · exact absurd rfl (other _ _)

/-- What a report says. -/
theorem eq_singleton {i : Identity} {reason : String} (h : Reported p (.failed (some i) reason) rs)
    (wanted : p.reports) : ∃ host rest, p.source.hosts = .ok (host :: rest) ∧
      host.identity? = some i ∧ rs = [⟨host.email, i.name,
        host.username ++ "@" ++ host.hostname ++ ":" ++ Text.numeral host.port.toNat, reason,
          p.now⟩] := by
  generalize told : Outcome.failed (some i) reason = o at h
  cases h with
  | @failure a reason' of =>
    cases told
    obtain ⟨rest, hosts⟩ := of.host
    refine ⟨a.host, rest, hosts, of.names, ?_⟩
    rw [← of.plan]
    rfl
  | mute mute =>
    rcases mute with unwanted | other
    · exact absurd (unwanted.symm.trans wanted) Bool.false_ne_true
    · exact absurd told.symm (other i reason)

end Reported
end Boot

namespace Bridge

/-- The event, with what a reply says left out. -/
def Event.hushed : Event → Event
  | reply t _ => .reply t (.ok 0)
  | x => x

namespace World

variable {w : World} {t : TaskId} {p : Boot.Plan} {q : Phase} {x : Event} {xs ys : List Event}
  {rs : List Directory.Report}

/-! ## What one task does -/

def reportsBy (w : World) (t : TaskId) : List Event → List Directory.Report
  | [] => []
  | x :: xs =>
    (if x.task = some t then (w.apply x).reports.drop w.reports.length else []) ++
      (w.apply x).reportsBy t xs

/-- A task changes nothing in a run but how far it is. -/
def Idles (w : World) (t : TaskId) : List Event → Prop
  | [] => True
  | x :: xs =>
    (x.task = some t → w.apply x = { w with tasks := (w.apply x).tasks }) ∧ (w.apply x).Idles t xs

theorem reportsBy_append (w : World) (t : TaskId) (xs ys : List Event) :
    w.reportsBy t (xs ++ ys) = w.reportsBy t xs ++ (w.run xs).reportsBy t ys := by
  induction xs generalizing w with
  | nil => rfl
  | cons x xs ih =>
    simp only [List.cons_append, reportsBy, ih, List.append_assoc]
    rfl

theorem Idles.append (h : w.Idles t xs) (rest : (w.run xs).Idles t ys) : w.Idles t (xs ++ ys) := by
  induction xs generalizing w with
  | nil => exact rest
  | cons x xs ih => exact ⟨h.1, ih h.2 rest⟩

/-- Who changes nothing calls no transport and reports nothing. -/
theorem Idles.quiet (h : w.Idles t xs) : w.callsBy t xs = [] ∧ w.reportsBy t xs = [] := by
  induction xs generalizing w with
  | nil => exact ⟨rfl, rfl⟩
  | cons x xs ih =>
    obtain ⟨calls, reports⟩ := ih h.2
    rw [callsBy, reportsBy, calls, reports]
    split
    · next own =>
      rw [h.1 own]
      simp
    · exact ⟨rfl, rfl⟩

theorem reportsBy_concat_own (own : x.task = some t)
    (reports : ((w.run ys).apply x).reports = (w.run ys).reports ++ rs) :
    w.reportsBy t (ys ++ [x]) = w.reportsBy t ys ++ rs := by
  rw [reportsBy_append]
  simp [reportsBy, own, reports]

theorem Idles.concat_own (h : w.Idles t ys)
    (same : (w.run ys).apply x = { w.run ys with tasks := ((w.run ys).apply x).tasks }) :
    w.Idles t (ys ++ [x]) :=
  h.append ⟨fun _ => same, trivial⟩

/-! ## The course of a boot run -/

/-- The bridge that a boot run saw when it looked is one of its identity; once the run has touched
anything, that bridge is off the list. -/
def Sees (w : World) (t : TaskId) (ys : List Event) (a : Boot.Attempt) : Prop :=
  ∀ e, a.existing = some e → e < (w.run ys).made ∧
    ((w.run ys).entries e).identity = a.identity ∧ (w.Idles t ys ∨ ¬ (w.run ys).Ahead e)

/-- What a boot run has done by the time it is in a phase. -/
inductive Conduct (w : World) (t : TaskId) (p : Boot.Plan) (ys : List Event) : Phase → Prop
  | starts : w.Idles t ys → Conduct w t p ys (.boot p)
  | looked {a : Boot.Attempt} : a.Of p → w.Sees t ys a → w.Idles t ys →
    Conduct w t p ys (.bootRules a)
  | asks {a : Boot.Attempt} {r : Option Request} : a.Of p → w.Sees t ys a → w.reportsBy t ys = [] →
    Conduct w t p ys (.ensure (.boot a) a.identity r)
  | opens {a : Boot.Attempt} {e : EntryId} {k : CallId} : a.Of p → a.existing ≠ some e →
    w.reportsBy t ys = [] → Conduct w t p ys (.opening (.boot a) e k)
  | closes {a : Boot.Attempt} {e : EntryId} {s : SessionId} : a.Of p → w.reportsBy t ys = [] →
    Conduct w t p ys (.closing e s (.discarded (.boot a)))
  | joins {a : Boot.Attempt} {e : EntryId} : a.Of p → (a.existing = some e → w.Idles t ys) →
    w.reportsBy t ys = [] → Conduct w t p ys (.joining (.boot a) e)
  | reports {a : Boot.Attempt} {reason : String} : a.Of p → p.reports →
    w.reportsBy t ys = [a.report reason] →
    Conduct w t p ys (.reporting (a.report reason) (a.failure reason))
  | returned {o : Boot.Outcome} : (o.IsIdle → w.Idles t ys) → Boot.Reported p o (w.reportsBy t ys) →
    Conduct w t p ys (.done (.booted o))
  | aborted : Conduct w t p ys .aborted

variable {a : Boot.Attempt} {e : EntryId}

theorem conduct_failed {reason : String} (of : a.Of p)
    (sent : w.reportsBy t ys = failedReports a reason) :
    Conduct w t p ys (failedPhase a reason) := by
  rw [failedReports, of.plan] at sent
  rw [failedPhase, of.plan]
  split
  · next reports =>
    rw [if_pos reports] at sent
    exact .reports of reports sent
  · next mute =>
    rw [if_neg mute] at sent
    refine .returned (fun idle => idle.elim) ?_
    rw [sent]
    exact .mute (Or.inl (by simpa using mute))

theorem conduct_after {r : Except Error EntryId} (of : a.Of p)
    (sent : w.reportsBy t ys = (Caller.boot a).sent r)
    (idle : ∀ e, r = .ok e → a.existing = some e → w.Idles t ys) :
    Conduct w t p ys ((Caller.boot a).after r) := by
  cases r with
  | error f => exact conduct_failed of sent
  | ok e =>
    have silent : w.reportsBy t ys = [] := sent
    rw [Caller.after, Boot.Attempt.success]
    split
    · next seen =>
      refine .returned (fun _ => idle e rfl seen) ?_
      rw [silent]
      exact .mute (Or.inr fun _ _ same => by cases same)
    · refine .returned (fun idle => idle.elim) ?_
      rw [silent]
      exact .mute (Or.inr fun _ _ same => by cases same)

/-- What was seen stays so while the run changes nothing, or is left alone. -/
theorem Sees.concat (sees : w.Sees t ys a) (sound : (w.run ys).Sound)
    (idles : w.Idles t ys → w.Idles t (ys ++ [x])) : w.Sees t (ys ++ [x]) a := by
  intro e seen
  obtain ⟨made, identity, gone⟩ := sees e seen
  obtain ⟨later, grows⟩ := sound.run_grows made [x]
  rw [run_append]
  refine ⟨later, grows.identity.trans identity, gone.imp idles fun past ahead => ?_⟩
  exact past (sound.ahead_of_run ahead)

/-- Where the run takes a bridge off the list, what was seen has gone. -/
theorem Sees.concat_free (sees : w.Sees t ys a) (sound : (w.run ys).Sound)
    (free : ((w.run ys).apply x).listed a.identity = none) : w.Sees t (ys ++ [x]) a := by
  intro e seen
  obtain ⟨made, identity, -⟩ := sees e seen
  obtain ⟨later, grows⟩ := sound.run_grows made [x]
  have named := grows.identity.trans identity
  rw [run_append]
  refine ⟨later, named, Or.inr ?_⟩
  rintro (here | unmade)
  · have listed := isListed_iff.mp here
    rw [named] at listed
    exact absurd (free.symm.trans listed) (by simp)
  · exact Nat.not_lt_of_le unmade later

/-- While the bridge that was seen is listed, nothing was touched. -/
theorem Sees.idles {i : Identity} (sees : w.Sees t ys a) (sound : (w.run ys).Sound)
    (seen : a.existing = some e) (here : (w.run ys).listed i = some e) : w.Idles t ys := by
  obtain ⟨-, -, idle | past⟩ := sees e seen
  · exact idle
  · have listed := (sound.tidy.isListed_iff e).mpr (sound.tidy.status_of_listed here)
    exact absurd (Or.inl listed) past

/-- An event that leaves the phase as it is, and the world with it or the task alone. -/
theorem Conduct.concat (h : w.Conduct t p ys q) (sound : (w.run ys).Sound)
    (idles : w.Idles t ys → w.Idles t (ys ++ [x]))
    (silent : w.reportsBy t (ys ++ [x]) = w.reportsBy t ys) : w.Conduct t p (ys ++ [x]) q := by
  cases h with
  | starts idle => exact .starts (idles idle)
  | looked of sees idle => exact .looked of (sees.concat sound idles) (idles idle)
  | asks of sees mute => exact .asks of (sees.concat sound idles) (silent.trans mute)
  | opens of other mute => exact .opens of other (silent.trans mute)
  | closes of mute => exact .closes of (silent.trans mute)
  | joins of idle mute => exact .joins of (fun seen => idles (idle seen)) (silent.trans mute)
  | reports of wanted sent => exact .reports of wanted (silent.trans sent)
  | returned idle reported => exact .returned (fun quiet => idles (idle quiet)) (silent ▸ reported)
  | aborted => exact .aborted

theorem tasks_proceed_same {t : TaskId} {q r : Phase} (h : (w.proceed t q rs).tasks t = some r) :
    q = r := by
  simpa [proceed, put] using h

/-- A step to the next phase without a report changes nothing else. -/
theorem Idles.proceed (h : w.Idles t ys) (went : (w.run ys).apply x = (w.run ys).proceed t q []) :
    w.Idles t (ys ++ [x]) := by
  apply h.concat_own
  rw [went, World.proceed, List.append_nil]

/-- The first step of a boot run. -/
theorem conduct_looks (sound : (w.run ys).Sound) (idle : w.Idles t ys)
    (went : (w.run ys).apply x = (w.run ys).proceed t q []) (looks : Looks (w.run ys) p q) :
    w.Conduct t p (ys ++ [x]) q := by
  have still := idle.proceed went
  have ends {o : Boot.Outcome} (told : ∀ i reason, o ≠ .failed (some i) reason) :
      w.Conduct t p (ys ++ [x]) (.done (.booted o)) := by
    refine .returned (fun _ => still) ?_
    rw [still.quiet.2]
    exact .mute (Or.inr told)
  cases looks with
  | unread | noHosts | skipped | reused => exact ends fun _ _ same => by cases same
  | found read names =>
    refine .looked ⟨rfl, ⟨_, read⟩, names⟩ ?_ still
    intro e seen
    rw [run_append]
    show e < ((w.run ys).apply x).made ∧ (((w.run ys).apply x).entries e).identity = _ ∧ _
    rw [went]
    exact ⟨sound.tidy.lt_made (sound.tidy.status_of_listed seen), sound.tidy.identity seen,
      Or.inl still⟩

/-- A later step that touches no bridge. -/
theorem conduct_passes {r : Phase} (own : x.task = some t) (sound : (w.run ys).Sound)
    (before : w.Conduct t p ys q) (passes : Passes (w.run ys) q r rs)
    (went : (w.run ys).apply x = (w.run ys).proceed t r rs) (asked : ∀ p, q ≠ .boot p) :
    w.Conduct t p (ys ++ [x]) r := by
  have sent : w.reportsBy t (ys ++ [x]) = w.reportsBy t ys ++ rs :=
    reportsBy_concat_own own (by rw [went]; rfl)
  have still (quiet : rs = []) (idle : w.Idles t ys) : w.Idles t (ys ++ [x]) :=
    idle.proceed (quiet ▸ went)
  cases before with
  | starts => exact absurd rfl (asked p)
  | looked of sees idle =>
    rw [idle.quiet.2, List.nil_append] at sent
    cases passes with
    | bootFailed reason => exact conduct_failed of sent
    | bootAsks => exact .asks of (sees.concat sound (still rfl)) sent
  | @asks a _ of sees mute =>
    rw [mute, List.nil_append] at sent
    cases passes with
    | ensured found =>
      refine conduct_after of sent ?_
      rintro e rfl seen
      rcases found with ⟨-, ⟨-, other⟩ | ⟨_, _, -, -, other⟩⟩ | ⟨b, here, -, same⟩
      · cases other
      · cases other
      · cases same
        exact still rfl (sees.idles sound seen here)
    | join here => exact .joins of (fun seen => still rfl (sees.idles sound seen here)) sent
  | @joins a e of idle mute =>
    rw [mute, List.nil_append] at sent
    cases passes with
    | joined settled =>
      refine conduct_after of sent ?_
      intro b told seen
      have quiet : (Caller.boot a).sent ((w.run ys).verdict e) = [] := by
        rw [told]
        rfl
      exact still quiet (idle ((verdict_eq_ok_iff.mp told).2 ▸ seen))
  | opens | closes | reports | returned | aborted => cases passes

/-- A step that touches no bridge, be it the first one or a later one. -/
theorem conduct_pass {m : Meanwhile} {r : Phase} (sound : (w.run ys).Sound)
    (ht : (w.run ys).tasks t = some q) (before : w.Conduct t p ys q) (passes : Passes (w.run ys) q r rs)
    (went : (w.run ys).apply (.run t m) = (w.run ys).proceed t r rs) :
    w.Conduct t p (ys ++ [.run t m]) r := by
  by_cases first : ∃ plan, q = .boot plan
  · obtain ⟨plan, rfl⟩ := first
    cases before with
    | starts idle =>
      have looks := looks_of_apply ht (by rw [went]; exact put_same _ _ _)
      cases passes with
      | bootOver | bootFound => exact conduct_looks sound idle went looks
  · exact conduct_passes rfl sound before passes went fun plan same => first ⟨plan, same⟩

/-- The step by which an opener goes on: the bridge that it tells of is the one that it has made, and
not the one that it saw. -/
theorem Conduct.answered {c : Caller} {k : CallId} {r : Except Error EntryId}
    (before : w.Conduct t p ys (.opening c e k))
    (sent : w.reportsBy t (ys ++ [x]) = w.reportsBy t ys ++ c.sent r)
    (told : ∀ b, r = .ok b → e = b) : w.Conduct t p (ys ++ [x]) (c.after r) := by
  cases before with
  | opens of other mute =>
    rw [mute, List.nil_append] at sent
    exact conduct_after of sent fun b same seen => absurd (told b same ▸ seen) other

/-- The step by which a bridge is replaced. It may be the one that was seen; either way its identity is
free afterwards. -/
theorem conduct_ends {r : Phase} {u : Option SessionId} (sound : (w.run ys).Sound)
    (before : w.Conduct t p ys q) (ends : Ends (w.run ys) e q u r)
    (went : (w.run ys).apply x = (((w.run ys).retire e).tells u).proceed t r [])
    (sent : w.reportsBy t (ys ++ [x]) = w.reportsBy t ys) : w.Conduct t p (ys ++ [x]) r := by
  cases before with
  | asks of sees mute =>
    cases ends with
    | replace here =>
      refine .asks of (sees.concat_free sound ?_) (sent.trans mute)
      have listed := (sound.tidy.isListed_iff _).mpr (sound.tidy.status_of_listed here)
      rw [went, tells, retire_of_listed listed, sound.tidy.identity here]
      exact put_same _ _ _
  | _ => cases ends

/-- Whatever the run does, or has done to it. -/
theorem conduct_own {r : Phase} (own : x.task = some t) (sound : (w.run ys).Sound)
    (ht : (w.run ys).tasks t = some q) (before : w.Conduct t p ys q)
    (hr : ((w.run ys).apply x).tasks t = some r) : w.Conduct t p (ys ++ [x]) r := by
  have move := apply_move (w.run ys) x
  have adds {v : World} {r : Phase} {rs : List Directory.Report}
      (went : (w.run ys).apply x = v.proceed t r rs) (reports : v.reports = (w.run ys).reports) :
      w.reportsBy t (ys ++ [x]) = w.reportsBy t ys ++ rs :=
    reportsBy_concat_own own (by rw [went]; exact congrArg (· ++ rs) reports)
  have sent {v : World} {r : Phase} {rs : List Directory.Report} (mute : w.reportsBy t ys = [])
      (went : (w.run ys).apply x = v.proceed t r rs) (reports : v.reports = (w.run ys).reports) :
      w.reportsBy t (ys ++ [x]) = rs := by
    rw [adds went reports, mute]
    rfl
  generalize went : (w.run ys).apply x = v at move hr
  cases move with
  | start | answer | listen | session => cases own
  | rest =>
    cases ht.symm.trans hr
    have stays := went.trans (proceed_self ht).symm
    exact before.concat sound (fun idle => idle.proceed stays)
      ((adds stays rfl).trans (List.append_nil _))
  | abort => cases own; cases tasks_proceed_same hr; exact .aborted
  | cancel => cases own; cases tasks_proceed_same hr; exact .aborted
  | reply hu =>
    obtain rfl := phase_of_own ht hu own
    cases own
    cases tasks_proceed_same hr
    cases before with
    | reports of wanted reported =>
      refine .returned (fun idle => idle.elim) ?_
      rw [adds went rfl, reported]
      exact .failure of wanted
  | pass hu passes =>
    obtain rfl := phase_of_own ht hu own
    cases own
    cases tasks_proceed_same hr
    exact conduct_pass sound ht before passes went
  | ends hu ends =>
    obtain rfl := phase_of_own ht hu own
    cases own
    cases tasks_proceed_same hr
    have sent := adds went (by rw [tells_retire])
    exact conduct_ends sound before ends went (sent.trans (List.append_nil _))
  | @closed u m e s z hu =>
    obtain rfl := phase_of_own ht hu own
    cases own
    cases tasks_proceed_same hr
    cases before with
    | closes of mute =>
      have reported := sent mute went (by rw [sessionEvent_eq])
      exact conduct_after (r := .error ((w.run ys).entries e).openFailure) of reported
        fun _ told => by cases told
  | unlist hu hi hs => exact absurd hs (sound.tidy.status_of_listed hi)
  | place hu =>
    obtain rfl := phase_of_own ht hu own
    cases own
    cases tasks_proceed_same hr
    cases before with
    | asks of sees mute =>
      -- The new bridge is none that was there when the run looked.
      refine .opens of (fun seen => ?_) (sent mute went rfl)
      obtain ⟨made, -⟩ := sees _ seen
      exact Nat.lt_irrefl _ made
  | fail hu =>
    obtain rfl := phase_of_own ht hu own
    cases own
    cases tasks_proceed_same hr
    exact before.answered (adds went (by rw [rollBack_eq])) fun _ told => by cases told
  | commit hu =>
    obtain rfl := phase_of_own ht hu own
    cases own
    cases tasks_proceed_same hr
    exact before.answered (adds went (by rw [received_eq]; rfl)) fun _ => Except.ok.inj
  | discard hu =>
    obtain rfl := phase_of_own ht hu own
    cases own
    cases tasks_proceed_same hr
    cases before with
    | opens of other mute => exact .closes of (sent mute went (by rw [received_eq]; rfl))

/-- Whatever happens. -/
theorem conduct_concat {r : Phase} (sound : (w.run ys).Sound) (ht : (w.run ys).tasks t = some q)
    (before : w.Conduct t p ys q) (hr : ((w.run ys).apply x).tasks t = some r) :
    w.Conduct t p (ys ++ [x]) r := by
  by_cases own : x.task = some t
  · exact conduct_own own sound ht before hr
  · have old := ((apply_move _ x).task hr).kept_of_other own (sound.manned.lt_spawned ht)
    cases ht.symm.trans old
    refine before.concat sound (fun idle => ?_) ?_
    · exact idle.append ⟨fun mine => absurd mine own, trivial⟩
    · rw [reportsBy_append]
      simp [reportsBy, own]

theorem conduct_run (ys zs : List Event) (sound : (w.run ys).Sound)
    (ht : (w.run ys).tasks t = some q) (before : w.Conduct t p ys q) :
    ∃ r, (w.run (ys ++ zs)).tasks t = some r ∧ w.Conduct t p (ys ++ zs) r := by
  -- What a phase says is about all events since the start, so they grow at the end.
  induction zs generalizing ys q with
  | nil =>
    rw [List.append_nil]
    exact ⟨q, ht, before⟩
  | cons z zs ih =>
    have next : w.run (ys ++ [z]) = (w.run ys).apply z := run_append w ys [z]
    obtain ⟨r, hr⟩ := (apply_move _ z).task_stays ht
    have rest := ih (ys ++ [z]) (next ▸ sound.apply z) (next ▸ hr) (conduct_concat sound ht before hr)
    rwa [List.append_assoc] at rest

/-! ## Replies -/

theorem apply_hushed (w : World) (x : Event) : w.apply x.hushed = w.apply x := by
  cases x <;> rfl

theorem run_hushed (w : World) (xs : List Event) : w.run (xs.map Event.hushed) = w.run xs := by
  induction xs generalizing w with
  | nil => rfl
  | cons x xs ih =>
    refine (ih (w.apply x.hushed)).trans ?_
    rw [apply_hushed]
    rfl

end World

/-- The service that a report is sent to has no say in what comes of a boot run. -/
theorem settle_same_world (s : Script) (c : Directory.Client) (service service' : Directory.Service)
    (t : TaskId) (traffic traffic' : Directory.Traffic) (w : World) :
    (Boot.settle s (some c) service t traffic w).2 =
      (Boot.settle s (some c) service' t traffic' w).2 := by
  simp only [Boot.settle]
  split <;> rfl

namespace World

/-- Whatever happens while a boot run goes on, it calls the transport once at most. If it ends without
a bridge that it opened and without a failure of its host, all that it did left everything as it was
but its own state. It sends one report if it ends with a failure of the default host and there is
someone to report to, about that host with the reason of the outcome, and none otherwise. What replies say
makes no difference, and neither does the service. -/
theorem boot_run_contained (us : List Event) {t : TaskId} {p : Boot.Plan}
    (ht : (World.run {} us).tasks t = some (.boot p)) (ys : List Event) :
    ((World.run {} us).callsBy t ys).length ≤ 1 ∧
    (∀ o, Boot.outcome? (World.run {} (us ++ ys)) t = some o →
      (o.IsIdle → (World.run {} us).Idles t ys ∧ (World.run {} us).callsBy t ys = []) ∧
      (∀ i reason, o = .failed (some i) reason → p.reports →
        ∃ h rest, p.source.hosts = .ok (h :: rest) ∧ h.identity? = some i ∧
          (World.run {} us).reportsBy t ys = [⟨h.email, i.name,
            h.username ++ "@" ++ h.hostname ++ ":" ++ Text.numeral h.port.toNat, reason, p.now⟩]) ∧
      ((p.reports = false ∨ ∀ i reason, o ≠ .failed (some i) reason) →
        (World.run {} us).reportsBy t ys = [])) ∧
    (∀ zs : List Event, zs.map Event.hushed = ys.map Event.hushed →
      World.run {} (us ++ zs) = World.run {} (us ++ ys)) ∧
    ∀ s c service service' traffic traffic',
      (Boot.settle s (some c) service t traffic (World.run {} us)).2 =
        (Boot.settle s (some c) service' t traffic' (World.run {} us)).2 := by
  have sound := sound_run us
  refine ⟨?_, ?_, ?_, ?_⟩
  · rcases sound.callsBy_cases t ys with ⟨never, -⟩ | ⟨c, e, once, -⟩
    · simp [never]
    · simp [once]
  · intro o ended
    rw [run_append, outcome?_eq_some_iff] at ended
    obtain ⟨r, hr, conduct⟩ := conduct_run [] ys sound ht (.starts trivial)
    cases ended.symm.trans hr
    cases conduct with
    | returned idle reported =>
      refine ⟨fun quiet => ⟨idle quiet, (idle quiet).quiet.1⟩, ?_, reported.eq_nil⟩
      rintro i reason rfl wanted
      exact reported.eq_singleton wanted
  · intro zs same
    rw [run_append, run_append, ← run_hushed _ zs, same, run_hushed]
  · intro s c service service' traffic traffic'
    exact settle_same_world s c service service' t traffic traffic' _

def samplePlan : Boot.Plan :=
  ⟨⟨.ok [⟨"box", "ssh", "alice", "10.0.0.5", 22, "", "a@b.example", 0⟩], fun _ => .ok []⟩, true,
    "20260101_000000"⟩

def declined : List Event :=
  [.run 0 {}, .run 0 {}, .run 0 {}, .answer 0 (.failure .disconnected), .run 0 {},
    .reply 0 (.error (.status 500))]

theorem boot_run_contained_refused :
    Boot.outcome? (run {} ([.start (.boot samplePlan)] ++ declined)) 0 =
        some (.failed (some ⟨"box"⟩) "Failed to open bridge 'box': Disconnected") ∧
      (run {} [.start (.boot samplePlan)]).reportsBy 0 declined = [⟨"a@b.example", "box",
        "alice@10.0.0.5:22", "Failed to open bridge 'box': Disconnected",
          "20260101_000000"⟩] := by
  have start : (run {} [.start (.boot samplePlan)]).tasks 0 = some (.boot samplePlan) := rfl
  have ended : Boot.outcome? (run {} ([.start (.boot samplePlan)] ++ declined)) 0 =
      some (.failed (some ⟨"box"⟩) "Failed to open bridge 'box': Disconnected") := by
    decide +kernel
  obtain ⟨-, outcomes, -⟩ := boot_run_contained [.start (.boot samplePlan)] start declined
  obtain ⟨h, rest, hosts, -, sent⟩ := (outcomes _ ended).2.1 _ _ rfl rfl
  cases hosts
  have port : Text.numeral (22 : UInt16).toNat = "22" := by decide +kernel
  refine ⟨ended, sent.trans ?_⟩
  simp only [port]
  rfl

end World
end Bridge
end BridgeKeeper
