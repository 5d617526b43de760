import BridgeKeeper.Proofs.Bridge.Reporting

/-!
# Boot runs over the same hosts

A boot run that says that it opened or reused a bridge leaves it listed and connected. As long as that
bridge stays listed and its session alive, every further boot run over the same hosts finds it at once,
and does nothing else.
-/
namespace BridgeKeeper.Bridge

namespace World

variable {w v : World} {t : TaskId} {p : Boot.Plan} {q : Phase} {x : Event} {xs ys zs : List Event}
  {a : Boot.Attempt} {e : EntryId} {i : Identity} {o : Boot.Outcome} {s : SessionId}

/-! ## How a boot run gets its bridge -/

def IsDefault (s : Host.Source) (i : Identity) : Prop :=
  ∃ h rest, s.hosts = .ok (h :: rest) ∧ h.identity? = some i

def HasBridge (o : Boot.Outcome) (i : Identity) : Prop := o = .opened i ∨ o = .reused i

theorem isDefault_of (of : a.Of p) : IsDefault p.source a.identity := by
  obtain ⟨rest, hosts⟩ := of.host
  exact ⟨a.host, rest, hosts, of.names⟩

theorem not_hasBridge_failure {reason : String} (same : .done (.booted o) = failedPhase a reason) :
    ¬ HasBridge o i := by
  rw [failedPhase] at same
  split at same
  · cases same
  · cases same
    rintro (other | other) <;> cases other

/-- A caller that is told a bridge in the end was told it at once. -/
theorem ok_of_after {c : Caller} {r : Except Error EntryId} (same : c.after r = .done (.booted o))
    (has : HasBridge o i) : ∃ a b, c = .boot a ∧ r = .ok b ∧ a.identity = i := by
  cases c with
  | plain => cases same
  | boot a =>
    cases r with
    | ok b =>
      refine ⟨a, b, rfl, rfl, ?_⟩
      rw [Caller.after, Boot.Attempt.success] at same
      rcases has with rfl | rfl
      · split at same
        · cases same
        · exact Boot.Outcome.opened.inj (Result.booted.inj (Phase.done.inj same))
      · split at same
        · exact Boot.Outcome.reused.inj (Result.booted.inj (Phase.done.inj same))
        · cases same
    | error f => exact absurd has (not_hasBridge_failure same.symm)

/-- A step that touches no bridge, and by which a boot run gets one. -/
theorem connected_of_passes {us ys : List Event} {m : Meanwhile} {r : Phase}
    {rs : List Directory.Report} (before : (run {} us).Conduct t p ys q)
    (ht : (run {} (us ++ ys)).tasks t = some q) (passes : Passes (run {} (us ++ ys)) q r rs)
    (hr : ((run {} (us ++ ys)).apply (.run t m)).tasks t = some r) (told : r = .done (.booted o))
    (has : HasBridge o i) :
    IsDefault p.source i ∧ ∃ e, (((run {} (us ++ ys)).apply (.run t m)).entries e).identity = i ∧
      ((run {} (us ++ ys)).apply (.run t m)).status e = .connected := by
  have sound := sound_run (us ++ ys)
  have accounts := accounts_run [] (us ++ ys) t (fun p hp => by cases hp) q ht
  cases before with
  | starts =>
    obtain ⟨_, went, -⟩ := apply_boot ht m
    rw [told] at hr
    cases looks_of_apply ht hr with
    | unread | noHosts | skipped => rcases has with other | other <;> cases other
    | @reused h rest j e read names here connected =>
      have same : j = i := by
        rcases has with other | other
        · cases other
        · exact Boot.Outcome.reused.inj other
      subst same
      rw [went]
      exact ⟨⟨h, rest, read, names⟩, e, sound.tidy.identity here, (isConnected_iff.mp connected).1⟩
  | looked of =>
    cases passes with
    | bootFailed => exact absurd has (not_hasBridge_failure told.symm)
    | bootAsks => cases told
  | @asks a r' of =>
    cases passes with
    | ensured found =>
      obtain ⟨a', b, same, rfl, rfl⟩ := ok_of_after told has
      cases same
      rcases found with ⟨-, ⟨-, other⟩ | ⟨_, _, -, -, other⟩⟩ | ⟨e, here, connected, -⟩
      · cases other
      · cases other
      · rw [apply_shared ht here connected]
        exact ⟨isDefault_of of, e, sound.tidy.identity here, (isConnected_iff.mp connected).1⟩
    | join => cases told
  | @joins a e of =>
    cases passes with
    | joined settled =>
      obtain ⟨a', b, same, shown, rfl⟩ := ok_of_after told has
      cases same
      rw [apply_joining ht settled]
      exact ⟨isDefault_of of, e, accounts.2.2, (verdict_eq_ok_iff.mp shown).1⟩
  | opens | closes | reports | returned | aborted => cases passes

/-- The event by which a boot run gets a bridge leaves the bridge connected. -/
theorem connected_of_return {us ys : List Event}
    (before : (run {} us).Conduct t p ys q) (ht : (run {} (us ++ ys)).tasks t = some q)
    (running : q ≠ .done (.booted o))
    (hr : ((run {} (us ++ ys)).apply x).tasks t = some (.done (.booted o))) (has : HasBridge o i) :
    IsDefault p.source i ∧ ∃ e, (((run {} (us ++ ys)).apply x).entries e).identity = i ∧
      ((run {} (us ++ ys)).apply x).status e = .connected := by
  have sound := sound_run (us ++ ys)
  have accounts := accounts_run [] (us ++ ys) t (fun p hp => by cases hp) q ht
  have change := (apply_move _ x).task hr
  generalize told : Phase.done (.booted o) = r at change
  cases change with
  | kept old =>
    cases ht.symm.trans old
    exact absurd told.symm running
  | @started o' => cases o' <;> cases told
  | opening | discarded | aborted | watching => cases told
  | replied old =>
    cases ht.symm.trans old
    cases before with
    | reports =>
      cases told
      rcases has with other | other <;> cases other
  | ended old ends =>
    cases ht.symm.trans old
    cases before with
    | asks =>
      cases ends with
      | replace => cases told
    | _ => cases ends
  | @closed m e s z old =>
    cases ht.symm.trans old
    cases before with
    | @closes a =>
      have failed : (Caller.boot a).after (.error ((run {} (us ++ ys)).entries e).openFailure) =
          .done (.booted o) := told.symm
      obtain ⟨a', b, -, other, -⟩ := ok_of_after failed has
      cases other
  | @answered m c e k answer r old given given' =>
    cases ht.symm.trans old
    cases before with
    | opens of =>
      obtain ⟨a', b, same, shown, rfl⟩ := ok_of_after told.symm has
      cases same
      obtain ⟨-, verdict, -⟩ := apply_answered ht given given' m
      have connected := (verdict_eq_ok_iff.mp (verdict.trans shown)).1
      refine ⟨isDefault_of of, e, ?_, connected⟩
      -- The bridge was made for the identity of the attempt and keeps it.
      have grows := (sound.run_grows (sound.manned.made ⟨_, ht⟩) [.run t m]).2
      exact grows.identity.trans accounts.2.2
  | passed old passes =>
    cases ht.symm.trans old
    exact connected_of_passes before ht passes (told ▸ hr) told.symm has

/-! ## What further runs find -/

/-- A bridge that was connected is still connected while it is listed and its session alive. -/
theorem Sound.isConnected_run (sound : w.Sound) (connected : w.status e = .connected)
    (session : (w.entries e).session = some s) (xs : List Event) (here : (w.run xs).isListed e)
    (alive : (w.run xs).isAlive s) :
    (w.run xs).listed (w.entries e).identity = some e ∧ (w.run xs).isConnected e := by
  have grows := (sound.run_grows (sound.tidy.lt_made_of_session session) xs).2
  constructor
  · rw [← grows.identity]
    exact isListed_iff.mp here
  · refine isConnected_iff.mpr ⟨?_, s, grows.session session, alive⟩
    have next := grows.status
    rw [show (w.entries e).status = .connected from connected] at next
    have listed := ((sound.run xs).tidy.isListed_iff e).mp here
    rw [status] at listed ⊢
    generalize ((w.run xs).entries e).status = now at next listed
    cases next with
    | stay => rfl
    | drop => exact absurd rfl listed

/-- How a further boot run stands: it has not looked yet, or it has found the bridge, if it was not
cancelled. -/
inductive Reuses (p : Boot.Plan) (i : Identity) : Phase → Prop
  | starts : Reuses p i (.boot p)
  | found : Reuses p i (.done (.booted (.reused i)))
  | cancelled : Reuses p i .aborted

theorem eq_reused_of_looks (default : IsDefault p.source i) (here : w.listed i = some e)
    (connected : w.isConnected e) (looks : Looks w p q) : q = .done (.booted (.reused i)) := by
  obtain ⟨h, rest, hosts, names⟩ := default
  cases looks with
  | unread read | noHosts read => cases hosts.symm.trans read
  | skipped read unnamed =>
    cases hosts.symm.trans read
    cases names.symm.trans unnamed
  | reused read names' =>
    cases hosts.symm.trans read
    cases names.symm.trans names'
    rfl
  | found read names' absent =>
    cases hosts.symm.trans read
    cases names.symm.trans names'
    exact absurd ((absent e here).symm.trans connected) Bool.false_ne_true

/-- A step of a further run. -/
theorem reuses_apply (ht : w.tasks t = some q) (reuses : Reuses p i q)
    (default : IsDefault p.source i) (here : w.listed i = some e) (connected : w.isConnected e)
    (own : x.task = some t) : ∃ r, Reuses p i r ∧ w.apply x = w.proceed t r [] := by
  have move := apply_move w x
  generalize went : w.apply x = v at move
  cases move with
  | rest => exact ⟨q, reuses, (proceed_self ht).symm⟩
  | start | answer | listen | session => cases own
  | abort => cases own; exact ⟨_, .cancelled, rfl⟩
  | pass hu passes =>
    obtain rfl := phase_of_own ht hu own
    cases own
    cases reuses with
    | starts =>
      have looks := looks_of_apply ht (by rw [went]; exact put_same _ _ _)
      obtain rfl := eq_reused_of_looks default here connected looks
      cases passes
      exact ⟨_, .found, rfl⟩
    | found | cancelled => cases passes
  | ends hu ends =>
    obtain rfl := phase_of_own ht hu own
    cases reuses <;> cases ends
  | reply hu | closed hu | cancel hu | unlist hu | place hu | fail hu | commit hu | discard hu =>
    obtain rfl := phase_of_own ht hu own
    cases reuses

theorem reuses_run (sound : w.Sound) (ht : w.tasks t = some q) (reuses : Reuses p i q)
    (default : IsDefault p.source i) (stays : ∀ vs ws, zs = vs ++ ws →
      (w.run vs).listed i = some e ∧ (w.run vs).isConnected e) :
    w.Idles t zs ∧ ∃ r, (w.run zs).tasks t = some r ∧ Reuses p i r := by
  induction zs generalizing w q with
  | nil => exact ⟨trivial, q, ht, reuses⟩
  | cons z zs ih =>
    obtain ⟨here, connected⟩ := stays [] (z :: zs) rfl
    have rest {r : Phase} (hr : (w.apply z).tasks t = some r) (next : Reuses p i r) :=
      ih (sound.apply z) hr next fun vs ws split => stays (z :: vs) ws (by rw [split]; rfl)
    -- An event of another task leaves the phase, one of the run keeps it among those of `Reuses`.
    by_cases own : z.task = some t
    · obtain ⟨r, next, went⟩ := reuses_apply ht reuses default here connected own
      obtain ⟨idles, later⟩ := rest (by rw [went]; exact put_same _ _ _) next
      refine ⟨⟨fun _ => ?_, idles⟩, later⟩
      rw [went, proceed, List.append_nil]
    · obtain ⟨r, hr⟩ := (apply_move w z).task_stays ht
      have old := ((apply_move w z).task hr).kept_of_other own (sound.manned.lt_spawned ht)
      cases ht.symm.trans old
      obtain ⟨idles, later⟩ := rest hr reuses
      exact ⟨⟨fun mine => absurd mine own, idles⟩, later⟩

/-- A boot run that is started in a world, and all that comes after: it reuses the bridge of an identity,
calls no transport and changes nothing but its own state. -/
structure OnlyReuses (w : World) (p : Boot.Plan) (i : Identity) (cs : List Event) : Prop where
  idles : w.Idles w.spawned (.start (.boot p) :: cs)
  uncalled : w.callsBy w.spawned (.start (.boot p) :: cs) = []
  phase : ∃ q, (w.run (.start (.boot p) :: cs)).tasks w.spawned = some q ∧ Reuses p i q
  returns (m : Meanwhile) : (w.run (.start (.boot p) :: cs)).tasks w.spawned = some (.boot p) →
    Boot.outcome? ((w.run (.start (.boot p) :: cs)).apply (.run w.spawned m)) w.spawned =
      some (.reused i)

theorem onlyReuses {cs : List Event} (sound : w.Sound) (default : IsDefault p.source i)
    (stays : ∀ vs ws, cs = vs ++ ws → (w.run (.start (.boot p) :: vs)).listed i = some e ∧
      (w.run (.start (.boot p) :: vs)).isConnected e) : w.OnlyReuses p i cs := by
  have ht : (w.apply (.start (.boot p))).tasks w.spawned = some (.boot p) := put_same _ _ _
  obtain ⟨idles, q, hq, reuses⟩ := reuses_run (sound.apply _) ht .starts default stays
  have all : w.Idles w.spawned (.start (.boot p) :: cs) := ⟨fun own => (by cases own), idles⟩
  constructor
  · exact all
  · exact all.quiet.1
  · exact ⟨q, hq, reuses⟩
  · intro m waiting
    obtain ⟨here, connected⟩ := stays cs [] (List.append_nil _).symm
    obtain ⟨r, went, looks⟩ := apply_boot waiting m
    rw [went, eq_reused_of_looks default here connected looks]
    simp [Boot.outcome?, proceed, put]

/-- In every run, a boot run that says that it opened or reused a bridge leaves the bridge listed under
the identity of the default host, connected, and with a session. As long as the bridge stays listed and
the session alive, all boot runs over the same hosts that are started later, in whatever order and however
they overlap, reuse the bridge, call no transport and leave everything but their own state as it is. -/
theorem boot_idempotent (us ys : List Event) {t : TaskId} {p : Boot.Plan} {x : Event}
    {o : Boot.Outcome} {i : Identity} (ht : (World.run {} us).tasks t = some (.boot p))
    (running : Boot.outcome? (World.run {} (us ++ ys)) t = none)
    (ended : Boot.outcome? (World.run {} (us ++ ys ++ [x])) t = some o)
    (has : o = .opened i ∨ o = .reused i) :
    ∃ e s, (World.run {} (us ++ ys ++ [x])).listed i = some e ∧
      (World.run {} (us ++ ys ++ [x])).status e = .connected ∧
      ((World.run {} (us ++ ys ++ [x])).entries e).session = some s ∧
      ∀ zs, (∀ vs ws, zs = vs ++ ws → (World.run {} (us ++ ys ++ [x] ++ vs)).isListed e ∧
          (World.run {} (us ++ ys ++ [x] ++ vs)).isAlive s) →
        ∀ bs p' cs, zs = bs ++ .start (.boot p') :: cs → p'.source = p.source →
          (World.run {} (us ++ ys ++ [x] ++ bs)).OnlyReuses p' i cs := by
  have sound := sound_run (us ++ ys ++ [x])
  obtain ⟨q, hq, conduct⟩ := conduct_run (w := run {} us) [] ys (sound_run us) ht (.starts trivial)
  rw [List.nil_append] at hq conduct
  rw [← run_append] at hq
  have going : q ≠ .done (.booted o) := by
    rintro rfl
    rw [outcome?_eq_some_iff.mpr hq] at running
    cases running
  rw [outcome?_eq_some_iff, run_concat] at ended
  obtain ⟨default, e, identity, connected⟩ := connected_of_return conduct hq going ended has
  rw [← run_concat] at identity connected
  have listed := (sound.tidy.listed_iff e).mpr (by rw [connected]; decide)
  obtain ⟨-, ⟨connecting, -⟩ | ⟨-, s, session⟩⟩ := sound.of_listed listed
  · rw [connected] at connecting
    cases connecting
  refine ⟨e, s, identity ▸ listed, connected, session, ?_⟩
  rintro zs stays bs p' cs rfl source
  apply onlyReuses (sound_run _) (source ▸ default)
  intro vs ws split
  have kept := stays (bs ++ .start (.boot p') :: vs) ws
    (by rw [split, List.append_assoc, List.cons_append])
  rw [run_append] at kept
  rw [← run_append, List.append_assoc, run_append, ← identity]
  exact sound.isConnected_run connected session _ kept.1 kept.2

def restored : List Event :=
  [.start (.boot samplePlan)] ++ [.run 0 {}, .run 0 {}, .run 0 {}, .answer 0 (.session "s" true)] ++
    [.run 0 {}]

/-- Two more boot runs overlap, and a third one comes after them. -/
def repeated : List Event :=
  [.start (.boot samplePlan), .start (.boot samplePlan), .run 3 {}, .run 2 {},
    .start (.boot samplePlan), .run 4 {}]

theorem boot_idempotent_repeated :
    (run {} (restored ++ [])).OnlyReuses samplePlan ⟨"box"⟩ (repeated.drop 1) ∧
      (run {} (restored ++ repeated.take 1)).OnlyReuses samplePlan ⟨"box"⟩ (repeated.drop 2) ∧
      (run {} (restored ++ repeated.take 4)).OnlyReuses samplePlan ⟨"box"⟩ (repeated.drop 5) := by
  obtain ⟨e, s, listed, -, session, reuses⟩ := boot_idempotent [.start (.boot samplePlan)]
    [.run 0 {}, .run 0 {}, .run 0 {}, .answer 0 (.session "s" true)] (t := 0) (p := samplePlan)
    (x := .run 0 {}) (o := .opened ⟨"box"⟩) (i := ⟨"box"⟩) rfl (by decide +kernel) (by decide +kernel)
    (Or.inl rfl)
  have bridge : (run {} restored).listed ⟨"box"⟩ = some 0 := by decide +kernel
  cases bridge.symm.trans listed
  have live : ((run {} restored).entries 0).session = some 0 := by decide +kernel
  cases live.symm.trans session
  have stays : ∀ n < 7, (run {} (restored ++ repeated.take n)).isListed 0 ∧
      (run {} (restored ++ repeated.take n)).isAlive 0 := by
    decide +kernel
  have further := reuses repeated fun vs ws split => by
    have taken : vs = repeated.take vs.length := by rw [split, List.take_left]
    have length := congrArg List.length split
    rw [List.length_append, repeated] at length
    rw [taken]
    exact stays _ (by simp only [List.length_cons, List.length_nil] at length; omega)
  exact ⟨further [] samplePlan _ rfl rfl, further _ samplePlan _ rfl rfl,
    further _ samplePlan _ rfl rfl⟩

end World
end BridgeKeeper.Bridge
