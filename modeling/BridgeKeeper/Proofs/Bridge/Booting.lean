import BridgeKeeper.Boot.Run
import BridgeKeeper.Proofs.Bridge.Calls

/-!
# What a boot run tells of its bridge

A boot run looks for a bridge, reads the rules, and asks for one. It says that it opened the bridge
unless the one that it gets is the one that it saw when it looked. So it says so of every bridge that
it opened itself, but also of one that another task opened while it read the rules.
-/
namespace BridgeKeeper.Bridge.World

variable {xs : List Event} {w : World} {x : Event} {t : TaskId} {p q : Phase} {a : Boot.Attempt}
  {e : EntryId} {i : Identity} {o : Boot.Outcome}

/-- A boot run has looked for a bridge and seen what stands in its attempt. -/
def Looked (xs : List Event) (t : TaskId) (a : Boot.Attempt) : Prop :=
  ∃ ys zs, xs = ys ++ zs ∧ (run {} ys).tasks t = some (.bootRules a) ∧
    (run {} ys).listed a.identity = a.existing

/-- A bridge of the identity was connected, and may be over by now. -/
def Connects (w : World) (i : Identity) (e : EntryId) : Prop :=
  (w.entries e).identity = i ∧ (w.entries e).session ≠ none

/-- What is true where a boot run ended with an outcome. It opened a bridge itself, or got one that it
did not see when it looked, or no bridge that it made came to be. -/
def Told (xs : List Event) (t : TaskId) : Boot.Outcome → Prop
  | .reused _ => listedBy {} t xs = []
  | .opened i => ∃ e, (run {} xs).Connects i e ∧ (listedBy {} t xs = [e] ∨
      listedBy {} t xs = [] ∧ ∃ a, Looked xs t a ∧ a.identity = i ∧ a.existing ≠ some e)
  | _ => ∀ e ∈ listedBy {} t xs, ((run {} xs).entries e).failure ≠ none

/-- How a boot run stands in a phase: which bridge it made so far, and what it saw when it looked. -/
def Accounts (xs : List Event) (t : TaskId) : Phase → Prop
  | .boot _ => listedBy {} t xs = []
  | .bootRules a => listedBy {} t xs = [] ∧ Looked xs t a
  | .ensure (.boot a) i _ => listedBy {} t xs = [] ∧ Looked xs t a ∧ i = a.identity
  | .opening (.boot a) e _ => listedBy {} t xs = [e] ∧ a.existing ≠ some e ∧
      ((run {} xs).entries e).identity = a.identity
  | .joining (.boot a) e => listedBy {} t xs = [] ∧ Looked xs t a ∧
      ((run {} xs).entries e).identity = a.identity
  | .closing e _ (.discarded (.boot _)) => listedBy {} t xs = [e]
  | .reporting _ o | .done (.booted o) => Told xs t o
  | _ => True

/-! ## What stays true -/

theorem Looked.concat (h : Looked xs t a) (x : Event) : Looked (xs ++ [x]) t a := by
  obtain ⟨ys, zs, rfl, looked⟩ := h
  exact ⟨ys, zs ++ [x], List.append_assoc ys zs [x], looked⟩

/-- What was seen had been made by then. -/
theorem Looked.existing_ne_made (h : Looked xs t a) : a.existing ≠ some (run {} xs).made := by
  obtain ⟨ys, zs, rfl, -, seen⟩ := h
  intro same
  have sound := sound_run ys
  have made := sound.tidy.lt_made (sound.tidy.status_of_listed (seen.trans same))
  have later := (sound.run_grows made zs).1
  rw [← run_append] at later
  exact Nat.lt_irrefl _ later

theorem grows_concat (made : e < (run {} xs).made) (x : Event) :
    ((run {} xs).entries e).Grows ((run {} (xs ++ [x])).entries e) := by
  rw [run_append]
  exact ((sound_run xs).run_grows made [x]).2

theorem Connects.concat (h : (run {} xs).Connects i e) (x : Event) :
    (run {} (xs ++ [x])).Connects i e := by
  obtain ⟨identity, connected⟩ := h
  obtain ⟨s, session⟩ := Option.ne_none_iff_exists'.mp connected
  have grows := grows_concat ((sound_run xs).tidy.lt_made_of_session session) x
  exact ⟨grows.identity.trans identity, by simp [grows.session session]⟩

theorem failure_concat (h : ((run {} xs).entries e).failure ≠ none) (x : Event) :
    ((run {} (xs ++ [x])).entries e).failure ≠ none := by
  obtain ⟨f, noted⟩ := Option.ne_none_iff_exists'.mp h
  have made := (sound_run xs).tidy.lt_made_of_ne fun blank => by
    rw [blank] at noted
    cases noted
  simp [(grows_concat made x).failure noted]

theorem Told.concat (h : Told xs t o) (same : listedBy {} t (xs ++ [x]) = listedBy {} t xs) :
    Told (xs ++ [x]) t o := by
  cases o with
  | reused i => exact same.trans h
  | opened i =>
    obtain ⟨e, connects, own | ⟨bare, a, looked, seen⟩⟩ := h
    · exact ⟨e, connects.concat x, Or.inl (same.trans own)⟩
    · exact ⟨e, connects.concat x, Or.inr ⟨same.trans bare, a, looked.concat x, seen⟩⟩
  | noHosts | skipped | failed =>
    intro e made
    rw [same] at made
    exact failure_concat (h e made) x

/-- A task that stays in its phase and makes no bridge stands as before. -/
theorem Accounts.concat (h : Accounts xs t p) (ht : (run {} xs).tasks t = some p)
    (same : listedBy {} t (xs ++ [x]) = listedBy {} t xs) : Accounts (xs ++ [x]) t p := by
  cases p with
  | boot p => exact same.trans h
  | bootRules a => exact ⟨same.trans h.1, h.2.concat x⟩
  | ensure c i r =>
    cases c with
    | plain => trivial
    | boot a => exact ⟨same.trans h.1, h.2.1.concat x, h.2.2⟩
  | opening c e k =>
    cases c with
    | plain => trivial
    | boot a =>
      obtain ⟨own, unseen, identity⟩ := h
      have made := (sound_run xs).manned.made ⟨_, ht⟩
      exact ⟨same.trans own, unseen, (grows_concat made x).identity.trans identity⟩
  | joining c e =>
    cases c with
    | plain => trivial
    | boot a =>
      obtain ⟨bare, looked, identity⟩ := h
      have made := awaitsMade_run xs t _ e ht rfl
      exact ⟨same.trans bare, looked.concat x, (grows_concat made x).identity.trans identity⟩
  | closing e s z =>
    cases z with
    | discarded c =>
      cases c with
      | plain => trivial
      | boot a => exact same.trans h
    | _ => trivial
  | reporting r o => exact Told.concat h same
  | done r =>
    cases r with
    | booted o => exact Told.concat h same
    | _ => trivial
  | _ => trivial

/-! ## How a run ends -/

theorem told_success (connects : (run {} xs).Connects a.identity e)
    (credit : listedBy {} t xs = [e] ∧ a.existing ≠ some e ∨ listedBy {} t xs = [] ∧ Looked xs t a) :
    Told xs t (a.success e) := by
  rw [Boot.Attempt.success]
  split
  · next seen =>
    rcases credit with ⟨-, unseen⟩ | ⟨bare, -⟩
    · exact absurd seen unseen
    · exact bare
  · next unseen =>
    rcases credit with ⟨own, -⟩ | ⟨bare, looked⟩
    · exact ⟨e, connects, Or.inl own⟩
    · exact ⟨e, connects, Or.inr ⟨bare, a, looked, rfl, unseen⟩⟩

theorem accounts_failed (broken : ∀ e ∈ listedBy {} t xs, ((run {} xs).entries e).failure ≠ none)
    (a : Boot.Attempt) (reason : String) : Accounts xs t (failedPhase a reason) := by
  rw [failedPhase]
  split <;> exact broken

theorem accounts_upon {z : Sequel} (plain : ∀ c, z ≠ .discarded c) (w : World) (e : EntryId)
    (s : Option SessionId) : Accounts xs t (z.upon w e s) := by
  cases z with
  | discarded c => exact absurd rfl (plain c)
  | _ => cases s <;> trivial

/-- A boot run that is told of a bridge that is not connecting any more. -/
theorem accounts_verdict (c : Caller) (credited : ∀ a, c = .boot a →
      ((run {} xs).entries e).identity = a.identity ∧
        (listedBy {} t xs = [e] ∧ a.existing ≠ some e ∧ (run {} xs).Decided e ∨
          listedBy {} t xs = [] ∧ Looked xs t a)) :
    Accounts xs t (c.after ((run {} xs).verdict e)) := by
  have sound := sound_run xs
  cases c with
  | plain => trivial
  | boot a =>
    obtain ⟨own, credit⟩ := credited a rfl
    by_cases connected : (run {} xs).status e = .connected
    · rw [verdict_of_connected connected]
      have proper := sound.tidy.proper e
      rw [Entry.Proper, show ((run {} xs).entries e).status = .connected from connected] at proper
      exact told_success ⟨own, proper.1⟩ (credit.imp_left fun h => ⟨h.1, h.2.1⟩)
    · obtain ⟨reason, told⟩ := ((run {} xs).verdict_cases e).resolve_left fun ok => by
        simp [verdict, connected] at ok
      rw [told]
      refine accounts_failed (fun b made => ?_) a _
      rcases credit with ⟨alone, -, decided⟩ | ⟨bare, -⟩
      · rw [alone, List.mem_singleton] at made
        exact made ▸ decided.resolve_left connected
      · rw [bare] at made
        cases made

/-- The first step of a boot run ends it, without a new bridge, or it has looked. -/
theorem apply_boot_cases {p : Boot.Plan} {m : Meanwhile} (ht : w.tasks t = some (.boot p))
    (hq : (w.apply (.run t m)).tasks t = some q) :
    (∃ o, q = .done (.booted o) ∧ ∀ i, o ≠ .opened i) ∨
      ∃ a, q = .bootRules a ∧ (w.apply (.run t m)).listed a.identity = a.existing := by
  obtain ⟨_, went, -⟩ := apply_boot ht m
  cases looks_of_apply ht hq with
  | unread | noHosts | skipped | reused => exact Or.inl ⟨_, rfl, fun _ same => by cases same⟩
  | found =>
    rw [went]
    exact Or.inr ⟨_, rfl, rfl⟩

/-! ## What an event does -/

/-- A boot run makes a bridge that it cannot have seen when it looked. -/
theorem accounts_places {c : Call} (before : ∀ p, (run {} xs).tasks t = some p → Accounts xs t p)
    (places : (run {} xs).Places t c (run {} (xs ++ [x])))
    (made : listedBy {} t (xs ++ [x]) = listedBy {} t xs ++ [(run {} xs).made])
    (hq : (run {} (xs ++ [x])).tasks t = some q) : Accounts (xs ++ [x]) t q := by
  obtain ⟨caller, r, asking, opening⟩ := places.opening
  rw [opening] at hq
  cases hq
  cases caller with
  | plain => trivial
  | boot a =>
    obtain ⟨bare, looked, own⟩ := before _ asking
    refine ⟨?_, looked.existing_ne_made, places.identity.trans own⟩
    rw [made, bare, List.nil_append]

/-- A step that touches no bridge. -/
theorem accounts_passes {m : Meanwhile} {rs : List Directory.Report}
    (before : ∀ p, (run {} xs).tasks t = some p → Accounts xs t p)
    (ht : (run {} xs).tasks t = some p) (passes : Passes (run {} xs) p q rs)
    (same : listedBy {} t (xs ++ [.run t m]) = listedBy {} t xs)
    (hq : (run {} (xs ++ [.run t m])).tasks t = some q) : Accounts (xs ++ [.run t m]) t q := by
  have sound := sound_run xs
  have stands := before p ht
  have unmade (bare : listedBy {} t xs = []) : ∀ e ∈ listedBy {} t (xs ++ [.run t m]),
      ((run {} (xs ++ [.run t m])).entries e).failure ≠ none := by
    intro e made
    rw [same, bare] at made
    cases made
  cases passes with
  | @ensured c i r answer found =>
    cases c with
    | plain => trivial
    | boot a =>
      obtain ⟨bare, looked, rfl⟩ := stands
      rcases found with ⟨-, ⟨-, rfl⟩ | ⟨_, fault, -, -, rfl⟩⟩ | ⟨e, here, connected, rfl⟩
      · exact accounts_failed (unmade bare) a _
      · exact accounts_failed (unmade bare) a _
      · have connects : (run {} xs).Connects a.identity e := by
          refine ⟨sound.tidy.identity here, fun absent => ?_⟩
          simp [isConnected, absent] at connected
        exact told_success (connects.concat _) (Or.inr ⟨same.trans bare, looked.concat _⟩)
  | @join c i r e here =>
    cases c with
    | plain => trivial
    | boot a =>
      obtain ⟨bare, looked, rfl⟩ := stands
      have made := sound.tidy.lt_made (sound.tidy.status_of_listed here)
      exact ⟨same.trans bare, looked.concat _,
        (grows_concat made _).identity.trans (sound.tidy.identity here)⟩
  | @joined c e settled =>
    have verdict : (run {} (xs ++ [.run t m])).verdict e = (run {} xs).verdict e := by
      rw [run_concat, apply_joining ht settled]
      rfl
    rw [← verdict]
    refine accounts_verdict c ?_
    rintro a rfl
    obtain ⟨bare, looked, identity⟩ := stands
    exact ⟨(grows_concat (awaitsMade_run xs t _ e ht rfl) _).identity.trans identity,
      Or.inr ⟨same.trans bare, looked.concat _⟩⟩
  | bootOver o =>
    rw [run_concat] at hq
    obtain ⟨o', told, other⟩ := (apply_boot_cases ht hq).resolve_right (by rintro ⟨_, asks, -⟩; cases asks)
    have told : o = o' := Result.booted.inj (Phase.done.inj told)
    cases o with
    | opened i => exact absurd told.symm (other i)
    | reused i => exact same.trans stands
    | noHosts | skipped | failed => exact unmade stands
  | bootFound a =>
    have looked := hq
    rw [run_concat] at hq
    obtain ⟨a', asks, seen⟩ := (apply_boot_cases ht hq).resolve_left (by rintro ⟨_, told, -⟩; cases told)
    rw [← Phase.bootRules.inj asks, ← run_concat] at seen
    exact ⟨same.trans stands, _, [], (List.append_nil _).symm, looked, seen⟩
  | bootFailed reason => exact accounts_failed (unmade stands.1) _ _
  | bootAsks => exact ⟨same.trans stands.1, stands.2.concat _, rfl⟩
  | _ => trivial

theorem accounts_concat (before : ∀ p, (run {} xs).tasks t = some p → Accounts xs t p)
    (hq : (run {} (xs ++ [x])).tasks t = some q) : Accounts (xs ++ [x]) t q := by
  have sound := sound_run xs
  have made := listedBy_append {} t xs [x]
  rcases sound.callsBy_cons t x [] with ⟨-, idle⟩ | ⟨c, places, -, listed⟩
  · have same : listedBy {} t (xs ++ [x]) = listedBy {} t xs := by
      rw [made, idle]
      exact List.append_nil _
    have change := (apply_move (run {} xs) x).task (by rwa [← run_concat])
    cases change with
    | kept old => exact (before q old).concat old same
    | @started o new =>
      have unstarted := (sound_empty.callsBy_of_uncalled (Or.inl (Nat.le_of_eq new.symm))).2
      cases o with
      | boot p => exact same.trans unstarted
      | _ => trivial
    | passed old passes => exact accounts_passes before old passes same hq
    | ended old ends =>
      cases ends with
      | replace => exact (before _ old).concat old same
      | remove | clear | disconnect | settled => exact accounts_upon (by rintro c ⟨⟩) _ _ _
      | dead | ended => trivial
    | @closed m e s z old =>
      cases z with
      | discarded c =>
        cases c with
        | plain => trivial
        | boot a =>
          have own := before _ old
          have noted := ((regular_run xs).closing t e s _ old).noted rfl
          refine accounts_failed (fun b made => failure_concat ?_ _) a _
          rw [same, show listedBy {} t xs = [e] from own, List.mem_singleton] at made
          simp [made, noted]
      | _ => trivial
    | @discarded m c e k name alive old =>
      cases c with
      | plain => trivial
      | boot a => exact same.trans (before _ old).1
    | opening old =>
      -- The bridge of this phase was made in this very step, and nothing was.
      have later := (sound_run _).manned.made ⟨_, hq⟩
      rw [run_concat] at later
      simp only [listedBy, Event.task, if_true, List.append_nil] at idle
      rw [List.drop_eq_nil_iff, List.length_range] at idle
      exact absurd later (Nat.not_lt_of_le idle)
    | @answered m c e k answer r old given told =>
      obtain ⟨-, verdict, decided⟩ := apply_answered old given told m
      rw [← run_concat] at verdict decided
      rw [← verdict]
      refine accounts_verdict c ?_
      rintro a rfl
      obtain ⟨own, unseen, identity⟩ := before _ old
      exact ⟨(grows_concat (sound.manned.made ⟨_, old⟩) _).identity.trans identity,
        Or.inl ⟨same.trans own, unseen, decided⟩⟩
    | replied old => exact Told.concat (before _ old) same
    | aborted | watching => trivial
  · rw [← run_concat] at places
    exact accounts_places before places (by rw [made, listed]; rfl) hq

theorem accounts_run (xs ys : List Event) (t : TaskId)
    (before : ∀ p, (run {} xs).tasks t = some p → Accounts xs t p) :
    ∀ q, (run {} (xs ++ ys)).tasks t = some q → Accounts (xs ++ ys) t q := by
  -- What a phase says is about all events so far, so they grow at the end.
  induction ys generalizing xs with
  | nil =>
    rw [List.append_nil]
    exact before
  | cons y ys ih =>
    have next := ih (xs ++ [y]) fun q hq => accounts_concat before hq
    rwa [List.append_assoc] at next

theorem outcome?_eq_some_iff : Boot.outcome? w t = some o ↔ w.tasks t = some (.done (.booted o)) := by
  rw [Boot.outcome?]
  constructor
  · intro ended
    split at ended
    · next there =>
      cases ended
      exact there
    · cases ended
  · intro there
    rw [there]

theorem told_of_outcome? (ended : Boot.outcome? (run {} xs) t = some o) : Told xs t o :=
  accounts_run [] xs t (fun p ht => by cases ht) _ (outcome?_eq_some_iff.mp ended)

/-- In every run, a boot run that says that it reused a bridge has not called the transport; of a
bridge that it made and that was connected it says that it opened it; and where it says so of a bridge
that it did not make, it never called, and the bridge is not the one that it saw when it looked. -/
theorem boot_outcome_told (xs : List Event) (t : TaskId) (o : Boot.Outcome)
    (ended : Boot.outcome? (run {} xs) t = some o) :
    (∀ i, o = .reused i → callsBy {} t xs = []) ∧
    (∀ e ∈ listedBy {} t xs, ((run {} xs).entries e).session ≠ none →
      o = .opened ((run {} xs).entries e).identity) ∧
    ∀ i, o = .opened i → ∃ e, (run {} xs).Connects i e ∧ (listedBy {} t xs = [e] ∨
      callsBy {} t xs = [] ∧ ∃ a, Looked xs t a ∧ a.identity = i ∧ a.existing ≠ some e) := by
  have told := told_of_outcome? ended
  have uncalled (bare : listedBy {} t xs = []) : callsBy {} t xs = [] := by
    rcases sound_empty.callsBy_cases t xs with ⟨never, -⟩ | ⟨c, e, -, made, -⟩
    · exact never
    · rw [bare] at made
      cases made
  refine ⟨?_, ?_, ?_⟩
  · rintro i rfl
    exact uncalled told
  · intro e made connected
    cases o with
    | reused i =>
      rw [show listedBy {} t xs = [] from told] at made
      cases made
    | opened i =>
      obtain ⟨e', ⟨identity, -⟩, own | ⟨bare, -⟩⟩ := told
      · rw [own, List.mem_singleton] at made
        rw [made, identity]
      · rw [bare] at made
        cases made
    | noHosts | skipped | failed =>
      obtain ⟨s, session⟩ := Option.ne_none_iff_exists'.mp connected
      exact absurd ((sound_run xs).failure_of_session session) (told e made)
  · rintro i rfl
    obtain ⟨e, connects, own | ⟨bare, looked⟩⟩ := told
    · exact ⟨e, connects, Or.inl own⟩
    · exact ⟨e, connects, Or.inr ⟨uncalled bare, looked⟩⟩

/-- A boot run finds no bridge; while it reads the rules, another task begins to open one, and the boot
run waits for that. -/
def outrun : List Event :=
  [.start (.boot ⟨⟨.ok [⟨"box", "ssh", "alice", "10.0.0.5", 22, "", "", 0⟩], fun _ => .ok []⟩, false,
      "20260101_000000"⟩), .run 0 {},
    .start (.ensureOpen ⟨"box"⟩ (some ⟨⟨"h", "u", "p", 22, []⟩, none⟩)), .run 1 {}, .run 0 {}, .run 0 {},
    .answer 0 (.session "s" true), .run 1 {}, .run 0 {}]

/-- The boot run says that it opened the bridge, and has not called the transport. -/
theorem boot_outcome_told_outrun :
    Boot.outcome? (run {} outrun) 0 = some (.opened ⟨"box"⟩) ∧ callsBy {} 0 outrun = [] ∧
      ∃ a e, Looked outrun 0 a ∧ (run {} outrun).Connects ⟨"box"⟩ e ∧ a.existing ≠ some e := by
  have ended : Boot.outcome? (run {} outrun) 0 = some (.opened ⟨"box"⟩) := by decide +kernel
  have bare : listedBy {} 0 outrun = [] := by decide +kernel
  obtain ⟨-, -, opened⟩ := boot_outcome_told outrun 0 _ ended
  obtain ⟨e, connects, made | ⟨never, a, looked, -, unseen⟩⟩ := opened _ rfl
  · rw [bare] at made
    cases made
  · exact ⟨ended, never, a, e, looked, connects, unseen⟩

end BridgeKeeper.Bridge.World
