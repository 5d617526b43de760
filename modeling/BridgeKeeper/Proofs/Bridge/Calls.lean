import BridgeKeeper.Proofs.Bridge.Request
import BridgeKeeper.Proofs.Bridge.Verdict

/-!
# When the transport is called

A task calls the transport in the very step in which it lists a new bridge, and does so once at
most. What it asks for was checked before. Who finds a bridge to share or to wait for never calls,
and neither does who is refused one.
-/
namespace BridgeKeeper.Bridge

/-! ## Who may still call -/

def Error.Refusal : Error → Prop
  | notFound _ | invalidCredentials _ => True
  | openFailure .. => False

namespace Phase

/-- The task may look for a bridge, now or later, and call the transport if there is none. -/
def MayCall : Phase → Prop
  | ensure .. | boot _ | bootRules _ => True
  | _ => False

def Refused : Phase → Prop
  | done (.ensured (.error x)) => x.Refusal
  | done (.booted (.failed _ reason)) | reporting _ (.failed _ reason) =>
    ∃ x : Error, x.Refusal ∧ x.message = reason
  | _ => False

def Uncalled (p : Phase) : Prop := p.MayCall ∨ p.Refused

theorem HasResult.not_mayCall {p : Phase} (h : p.HasResult) : ¬ p.MayCall := by
  cases p with
  | ensure | boot | bootRules => exact h.elim
  | _ => exact id

end Phase

/-- The messages of a failed open and of a refusal begin differently. -/
theorem Error.openFailure_message_ne {x : Error} (refusal : x.Refusal) (i : Identity)
    (reason : String) : (openFailure i reason).message ≠ x.message := by
  have failed : (openFailure i reason).message.toList.head? = some 'F' :=
    head?_append _ (head?_append _ (head?_append _ rfl))
  intro same
  rw [same] at failed
  cases x with
  | notFound | invalidCredentials =>
    have refused := failed.symm.trans (head?_append _ rfl)
    exact absurd refused (by decide)
  | openFailure => exact refusal

theorem failedPhase_refused_iff (a : Boot.Attempt) (reason : String) :
    (failedPhase a reason).Refused ↔ ∃ x : Error, x.Refusal ∧ x.message = reason := by
  rw [failedPhase]
  split <;> rfl

namespace Caller

theorem after_ok_not_refused (c : Caller) (e : EntryId) : ¬ (c.after (.ok e)).Refused := by
  cases c with
  | plain => exact id
  | boot a =>
    rw [after, Boot.Attempt.success]
    split <;> exact id

theorem after_openFailure_not_refused (c : Caller) (i : Identity) (reason : String) :
    ¬ (c.after (.error (.openFailure i reason))).Refused := by
  cases c with
  | plain => exact id
  | boot a =>
    rw [after, failedPhase_refused_iff]
    rintro ⟨x, refusal, same⟩
    exact Error.openFailure_message_ne refusal i reason same.symm

/-- What is told of a bridge that was made is no refusal. -/
theorem after_verdict_not_refused (c : Caller) (w : World) (e : EntryId) :
    ¬ (c.after (w.verdict e)).Refused := by
  rcases w.verdict_cases e with told | ⟨reason, told⟩
  · rw [told]
    exact c.after_ok_not_refused e
  · rw [told]
    exact c.after_openFailure_not_refused _ reason

end Caller

/-- Nor is what an opener says of its bridge at once. -/
theorem Answered.not_refused {w : World} {e : EntryId} {a : Answer} {r : Except Error EntryId}
    (h : Answered w e a r) (c : Caller) : ¬ (c.after r).Refused := by
  cases h with
  | failed x => exact c.after_openFailure_not_refused _ _
  | connected => exact c.after_ok_not_refused e

namespace Sequel

variable (q : Sequel) (w : World) (e : EntryId) (s : Option SessionId)

theorem after_not_mayCall : ¬ (q.after w e).MayCall :=
  q.after_holds w e (P := (¬ ·.MayCall)) (fun _ => id) fun _ => Phase.HasResult.not_mayCall

theorem after_not_refused : ¬ (q.after w e).Refused := by
  cases q with
  | discarded c => exact c.after_openFailure_not_refused _ _
  | _ => exact id

theorem upon_not_mayCall : ¬ (q.upon w e s).MayCall :=
  q.upon_holds w e s (P := (¬ ·.MayCall)) (fun _ => id) (q.after_not_mayCall w e)

theorem upon_not_refused : ¬ (q.upon w e s).Refused :=
  q.upon_holds w e s (P := (¬ ·.Refused)) (fun _ => id) (q.after_not_refused w e)

end Sequel

/-- Who may call the transport after a step could do so before. -/
theorem Passes.mayCall {w : World} {p q : Phase} {rs : List Directory.Report}
    (h : Passes w p q rs) (may : q.MayCall) : p.MayCall := by
  cases h with
  | ensured | bootFound | bootFailed | bootAsks => trivial
  | joined => exact absurd may (Caller.after_hasResult _ _).not_mayCall
  | _ => exact may.elim

/-- Who is refused a bridge by a step could call the transport before. -/
theorem Passes.mayCall_of_refused {w : World} {p q : Phase} {rs : List Directory.Report}
    (h : Passes w p q rs) (refused : q.Refused) : p.MayCall := by
  cases h with
  | ensured | bootOver | bootFound | bootFailed | bootAsks => trivial
  | joined => exact absurd refused (Caller.after_verdict_not_refused _ w _)
  | _ => exact refused.elim

/-- Who may call the transport after an event could do so before, or was started by it. -/
theorem TaskChange.mayCall {w v : World} {t : TaskId} {x : Event} {q : Phase}
    (h : TaskChange w v t x q) (may : q.MayCall) :
    (t = w.spawned ∧ ∃ o, x = .start o ∧ o.start.MayCall) ∨
      ∃ p, w.tasks t = some p ∧ p.MayCall := by
  cases h with
  | kept old => exact Or.inr ⟨_, old, may⟩
  | started new => exact Or.inl ⟨new, _, rfl, may⟩
  | passed old h => exact Or.inr ⟨_, old, h.mayCall may⟩
  | ended old h =>
    refine Or.inr ⟨_, old, ?_⟩
    cases h with
    | replace => trivial
    | remove | clear | disconnect | settled => exact absurd may (Sequel.upon_not_mayCall _ _ _ _)
    | dead | ended => exact may.elim
  | closed => exact absurd may (Sequel.after_not_mayCall _ _ _)
  | answered => exact absurd may (Caller.after_hasResult _ _).not_mayCall
  | opening | discarded | replied | aborted | watching => exact may.elim

namespace World

variable {w v : World} {t u : TaskId} {x : Event} {q : Phase} {c : Call} {P : Phase → Prop}

def Still (w : World) (P : Phase → Prop) (t : TaskId) : Prop :=
  w.spawned ≤ t ∨ ∃ p, w.tasks t = some p ∧ P p

/-- A kind of phase to which no task returns. -/
def Left (P : Phase → Prop) : Prop :=
  ∀ {w v : World} {t : TaskId} {x : Event} {q : Phase}, TaskChange w v t x q → P q → w.Still P t

theorem left_mayCall : Left Phase.MayCall := by
  intro w v t x q h may
  rcases h.mayCall may with ⟨new, -⟩ | there
  · exact Or.inl (Nat.le_of_eq new.symm)
  · exact Or.inr there

theorem left_uncalled : Left Phase.Uncalled := by
  intro w v t x q h uncalled
  rcases uncalled with may | refused
  · rcases left_mayCall h may with unstarted | ⟨p, old, before⟩
    · exact Or.inl unstarted
    · exact Or.inr ⟨p, old, Or.inl before⟩
  cases h with
  | kept old => exact Or.inr ⟨_, old, Or.inr refused⟩
  | started new => exact Or.inl (Nat.le_of_eq new.symm)
  | passed old h => exact Or.inr ⟨_, old, Or.inl (h.mayCall_of_refused refused)⟩
  | ended old h =>
    cases h with
    | remove | clear | disconnect | settled =>
      exact absurd refused (Sequel.upon_not_refused _ _ _ _)
    | _ => exact refused.elim
  | closed => exact absurd refused (Sequel.after_not_refused _ _ _)
  | answered old ha told => exact absurd refused (told.not_refused _)
  | @replied y r o old =>
    refine Or.inr ⟨_, old, Or.inr ?_⟩
    cases o with
    | failed => exact refused
    | _ => exact refused.elim
  | opening | discarded | aborted | watching => exact refused.elim

end World

theorem Move.spawned_le {w v : World} {x : Event} (h : Move w x v) : w.spawned ≤ v.spawned := by
  cases h with
  | rest | answer | listen | session | reply | abort | pass | place => exact Nat.le_refl _
  | start => exact Nat.le_succ _
  | cancel | fail => rw [World.rollBack_eq]; exact Nat.le_refl _
  | ends => rw [World.tells_retire]; exact Nat.le_refl _
  | closed => rw [World.sessionEvent_eq]; exact Nat.le_refl _
  | unlist => exact Nat.le_of_eq (by rw [World.unlist_eq])
  | commit => rw [World.received_eq]; exact Nat.le_succ _
  | discard => rw [World.received_eq]; exact Nat.le_refl _

namespace World

variable {w v : World} {t u : TaskId} {x : Event} {q : Phase} {c : Call} {P : Phase → Prop}

/-- Who is in such a phase after a run was in one before. -/
theorem still_of_run (left : Left P) (xs : List Event) (later : (w.run xs).Still P t) :
    w.Still P t := by
  induction xs generalizing w with
  | nil => exact later
  | cons x xs ih =>
    have move := apply_move w x
    rcases ih later with unstarted | ⟨q, hq, here⟩
    · exact Or.inl (Nat.le_trans move.spawned_le unstarted)
    · exact left (move.task hq) here

/-! ## The calls of one task -/

def callsBy (w : World) (t : TaskId) : List Event → List Call
  | [] => []
  | x :: xs =>
    (if x.task = some t then (w.apply x).calls.drop w.calls.length else []) ++
      (w.apply x).callsBy t xs

def listedBy (w : World) (t : TaskId) : List Event → List EntryId
  | [] => []
  | x :: xs =>
    (if x.task = some t then (List.range (w.apply x).made).drop w.made else []) ++
      (w.apply x).listedBy t xs

/-- By a step of a task that has not called the transport yet, a bridge is made and the transport
called for it. -/
structure Places (w : World) (t : TaskId) (c : Call) (v : World) : Prop where
  opening : ∃ caller r, w.tasks t = some (.ensure caller c.identity (some r)) ∧
    v.tasks t = some (.opening caller w.made w.calls.length)
  usable : c.Usable
  calls : v.calls = w.calls ++ [c]
  made : v.made = w.made + 1
  identity : (v.entries w.made).identity = c.identity

end World

/-- An event makes a bridge and calls the transport for it, or does neither. -/
theorem Move.places {w v : World} {x : Event} (h : Move w x v) (sound : w.Sound) :
    (v.calls = w.calls ∧ v.made = w.made) ∨ ∃ t m c, x = .run t m ∧ w.Places t c v := by
  cases h with
  | rest | start | answer | listen | session | reply | abort | pass => exact Or.inl ⟨rfl, rfl⟩
  | cancel | fail => rw [World.rollBack_eq]; exact Or.inl ⟨rfl, rfl⟩
  | ends => rw [World.tells_retire]; exact Or.inl ⟨rfl, rfl⟩
  | closed => rw [World.sessionEvent_eq]; exact Or.inl ⟨rfl, rfl⟩
  | unlist ht hi hs => exact absurd hs (sound.tidy.status_of_listed hi)
  | commit | discard => rw [World.received_eq]; exact Or.inl ⟨rfl, rfl⟩
  | @place t m c i r ht hi hr =>
    refine Or.inr ⟨t, m, ⟨i, r.credentials, r.rule⟩, rfl, ?_⟩
    constructor
    · exact ⟨c, r, ht, by simp [World.proceed, put_same]⟩
    · exact (Request.check_eq_ok_iff i).mp hr
    · rfl
    · rfl
    · simp [World.proceed, World.call, World.list, put_same, Entry.placeholder]

namespace World

variable {w v : World} {t u : TaskId} {x : Event} {q : Phase} {c : Call} {xs : List Event}
  {P : Phase → Prop}

theorem callsBy_append (w : World) (t : TaskId) (xs ys : List Event) :
    w.callsBy t (xs ++ ys) = w.callsBy t xs ++ (w.run xs).callsBy t ys := by
  induction xs generalizing w with
  | nil => rfl
  | cons x xs ih =>
    simp only [List.cons_append, callsBy, ih, List.append_assoc]
    rfl

theorem listedBy_append (w : World) (t : TaskId) (xs ys : List Event) :
    w.listedBy t (xs ++ ys) = w.listedBy t xs ++ (w.run xs).listedBy t ys := by
  induction xs generalizing w with
  | nil => rfl
  | cons x xs ih =>
    simp only [List.cons_append, listedBy, ih, List.append_assoc]
    rfl

/-- The first event of a run adds nothing to what a task has done, or a bridge and its call. -/
theorem Sound.callsBy_cons (sound : w.Sound) (t : TaskId) (x : Event) (xs : List Event) :
    (w.callsBy t (x :: xs) = (w.apply x).callsBy t xs ∧
        w.listedBy t (x :: xs) = (w.apply x).listedBy t xs) ∨
      ∃ c, w.Places t c (w.apply x) ∧ w.callsBy t (x :: xs) = c :: (w.apply x).callsBy t xs ∧
        w.listedBy t (x :: xs) = w.made :: (w.apply x).listedBy t xs := by
  rcases (apply_move w x).places sound with ⟨calls, made⟩ | ⟨u, m, c, rfl, places⟩
  · exact Or.inl ⟨by simp [callsBy, calls], by simp [listedBy, made]⟩
  · by_cases same : u = t
    · subst u
      exact Or.inr ⟨c, places, by simp [callsBy, Event.task, places.calls],
        by simp [listedBy, Event.task, places.made, List.range_succ]⟩
    · exact Or.inl ⟨by simp [callsBy, Event.task, same], by simp [listedBy, Event.task, same]⟩

theorem Sound.not_still {p : Phase} (sound : w.Sound) (ht : w.tasks t = some p) (past : ¬ P p) :
    ¬ w.Still P t := by
  rintro (unstarted | ⟨q, hq, here⟩)
  · exact absurd (sound.manned.lt_spawned ht) (Nat.not_lt_of_le unstarted)
  · rw [ht] at hq
    exact past (Option.some.inj hq ▸ here)

/-- Who is past the phases that may call never does. -/
theorem Sound.callsBy_of_past (sound : w.Sound) (past : ¬ w.Still Phase.MayCall t)
    (xs : List Event) : w.callsBy t xs = [] ∧ w.listedBy t xs = [] := by
  induction xs generalizing w with
  | nil => exact ⟨rfl, rfl⟩
  | cons x xs ih =>
    rcases sound.callsBy_cons t x xs with ⟨calls, listed⟩ | ⟨c, places, -⟩
    · rw [calls, listed]
      exact ih (sound.apply x) fun later => past (still_of_run left_mayCall [x] later)
    · obtain ⟨caller, r, asking, -⟩ := places.opening
      exact absurd (Or.inr ⟨_, asking, trivial⟩) past

/-- Who cannot have called has not. -/
theorem Sound.callsBy_of_uncalled (sound : w.Sound)
    (uncalled : (w.run xs).Still Phase.Uncalled t) :
    w.callsBy t xs = [] ∧ w.listedBy t xs = [] := by
  induction xs generalizing w with
  | nil => exact ⟨rfl, rfl⟩
  | cons x xs ih =>
    rcases sound.callsBy_cons t x xs with ⟨calls, listed⟩ | ⟨c, places, -⟩
    · rw [calls, listed]
      exact ih (sound.apply x) uncalled
    · -- From inside a call, no phase that excludes calls before it is reached again.
      obtain ⟨caller, r, -, opening⟩ := places.opening
      have past := (sound.apply x).not_still (P := Phase.Uncalled) opening fun h => h.elim id id
      exact absurd (still_of_run left_uncalled xs uncalled) past

/-- A task calls for one bridge, which it made, or for none. -/
theorem Sound.callsBy_cases (sound : w.Sound) (t : TaskId) (xs : List Event) :
    (w.callsBy t xs = [] ∧ w.listedBy t xs = []) ∨
      ∃ c e, w.callsBy t xs = [c] ∧ w.listedBy t xs = [e] ∧
        ((w.run xs).entries e).identity = c.identity := by
  induction xs generalizing w with
  | nil => exact Or.inl ⟨rfl, rfl⟩
  | cons x xs ih =>
    have after := sound.apply x
    rcases sound.callsBy_cons t x xs with ⟨calls, listed⟩ | ⟨c, places, calls, listed⟩
    · rw [calls, listed]
      exact ih after
    · obtain ⟨caller, r, -, opening⟩ := places.opening
      have past := after.not_still (P := Phase.MayCall) opening id
      obtain ⟨noCalls, noneListed⟩ := after.callsBy_of_past past xs
      have made : w.made < (w.apply x).made := places.made ▸ Nat.lt_succ_self _
      have grows := (after.run_grows made xs).2
      exact Or.inr ⟨c, w.made, by rw [calls, noCalls], by rw [listed, noneListed],
        grows.identity.trans places.identity⟩

/-- Every call that comes is one of a task, and usable. -/
theorem Sound.mem_calls_run (sound : w.Sound) (xs : List Event) (h : c ∈ (w.run xs).calls) :
    c ∈ w.calls ∨ c.Usable ∧ ∃ t, c ∈ w.callsBy t xs := by
  induction xs generalizing w with
  | nil => exact Or.inl h
  | cons x xs ih =>
    rcases ih (sound.apply x) h with before | ⟨usable, t, called⟩
    · rcases (apply_move w x).places sound with ⟨calls, -⟩ | ⟨t, m, d, rfl, places⟩
      · exact Or.inl (calls ▸ before)
      · rw [places.calls, List.mem_append, List.mem_singleton] at before
        refine before.imp_right ?_
        rintro rfl
        exact ⟨places.usable, t, by simp [callsBy, Event.task, places.calls]⟩
    · exact Or.inr ⟨usable, t, List.mem_append_right _ called⟩

/-- A bridge that is connected with a session that is alive is shared. -/
theorem apply_shared {m : Meanwhile} {caller : Caller} {i : Identity} {r : Option Request}
    {e : EntryId} (ht : w.tasks t = some (.ensure caller i r)) (hi : w.listed i = some e)
    (connected : w.isConnected e) :
    w.apply (.run t m) = w.proceed t (caller.after (.ok e)) (caller.sent (.ok e)) := by
  have status := (isConnected_iff.mp connected).1
  simp [apply, step, ht, isReady, advance, ensure, hi, status, connected, conclude_eq]

/-- Who finds a bridge that is connecting, or one that is connected with a session that is alive,
does not call the transport for it and is past the phases that may call. -/
theorem apply_found {m : Meanwhile} {caller : Caller} {i : Identity} {r : Option Request}
    {e : EntryId} (ht : w.tasks t = some (.ensure caller i r)) (hi : w.listed i = some e)
    (found : w.status e = .connecting ∨ w.isConnected e) :
    (w.apply (.run t m)).calls = w.calls ∧
      ∃ p, (w.apply (.run t m)).tasks t = some p ∧ ¬ p.MayCall := by
  rcases found with connecting | connected
  · simp [apply, step, ht, isReady, advance, ensure, hi, connecting, setTask, put_same,
      Phase.MayCall]
  · rw [apply_shared ht hi connected]
    exact ⟨rfl, _, put_same _ _ _, (caller.after_hasResult (.ok e)).not_mayCall⟩

theorem Sound.callsBy_of_found {m : Meanwhile} {caller : Caller} {i : Identity}
    {r : Option Request} {e : EntryId} (sound : w.Sound)
    (ht : w.tasks t = some (.ensure caller i r)) (hi : w.listed i = some e)
    (found : w.status e = .connecting ∨ w.isConnected e) (xs : List Event) :
    w.callsBy t (.run t m :: xs) = [] := by
  obtain ⟨calls, p, hp, past⟩ := apply_found (m := m) ht hi found
  have after := sound.apply (.run t m)
  rw [callsBy, (after.callsBy_of_past (after.not_still hp past) xs).1]
  simp [calls]

/-- In every run, a task makes one bridge and calls the transport once, for the identity of that
bridge, or it does neither. If it finds a bridge to share or to wait for when it looks, it never
calls. Every call is one of a task and usable. And who is refused a bridge has not called and has
listed none. -/
theorem transport_called_once (xs : List Event) :
    (∀ t, (World.callsBy {} t xs = [] ∧ World.listedBy {} t xs = []) ∨
      ∃ c e, World.callsBy {} t xs = [c] ∧ World.listedBy {} t xs = [e] ∧
        ((World.run {} xs).entries e).identity = c.identity) ∧
    (∀ ys t m zs c i r e, xs = ys ++ .run t m :: zs →
      (World.run {} ys).tasks t = some (.ensure c i r) → (World.run {} ys).listed i = some e →
      (World.run {} ys).status e = .connecting ∨ (World.run {} ys).isConnected e →
      World.callsBy {} t xs = []) ∧
    (∀ c ∈ (World.run {} xs).calls, c.Usable ∧ ∃ t, c ∈ World.callsBy {} t xs) ∧
    ∀ t p, (World.run {} xs).tasks t = some p → p.Refused →
      World.callsBy {} t xs = [] ∧ World.listedBy {} t xs = [] := by
  refine ⟨fun t => sound_empty.callsBy_cases t xs, ?_, ?_, ?_⟩
  · rintro ys t m zs c i r e rfl ht hi found
    have before : (World.run {} ys).Still Phase.Uncalled t := Or.inr ⟨_, ht, Or.inl trivial⟩
    rw [callsBy_append, (sound_empty.callsBy_of_uncalled before).1,
      (sound_run ys).callsBy_of_found ht hi found]
    rfl
  · intro c called
    rcases sound_empty.mem_calls_run xs called with never | usable
    · cases never
    · exact usable
  · intro t p ht refused
    exact sound_empty.callsBy_of_uncalled (Or.inr ⟨p, ht, Or.inr refused⟩)

/-- A bridge is opened with a session that is dead already, while a second task waits for it, a
third one has no request and a fourth one an unusable request. A fifth one comes upon the dead
session and opens another bridge. -/
def contested : List Event :=
  [.start (.ensureOpen ⟨"a"⟩ (some sampleRequest)), .run 0 {}, .start (.ensureOpen ⟨"a"⟩ none),
    .run 1 {}, .start (.ensureOpen ⟨"b"⟩ none), .run 2 {},
    .start (.ensureOpen ⟨"b"⟩ (some ⟨⟨"h", "u", "p", 0, []⟩, none⟩)), .run 3 {},
    .answer 0 (.session "s" false), .run 0 {},
    .start (.ensureOpen ⟨"a"⟩ (some sampleRequest)), .run 5 {}, .run 5 {}]

theorem transport_called_once_contested :
    (∃ c e, World.callsBy {} 5 contested = [c] ∧ World.listedBy {} 5 contested = [e] ∧
        ((World.run {} contested).entries e).identity = c.identity) ∧
      World.callsBy {} 1 contested = [] ∧
      (∀ c ∈ (World.run {} contested).calls, c.Usable) ∧
      (World.callsBy {} 2 contested = [] ∧ World.listedBy {} 2 contested = []) ∧
      World.callsBy {} 3 contested = [] ∧ World.listedBy {} 3 contested = [] := by
  obtain ⟨once, shares, usable, refused⟩ := transport_called_once contested
  have calls : World.callsBy {} 5 contested ≠ [] := by decide
  refine ⟨(once 5).resolve_left fun never => calls never.1, ?_, fun c h => (usable c h).1, ?_, ?_⟩
  · exact shares (contested.take 3) 1 {} (contested.drop 4) .plain ⟨"a"⟩ none 0 rfl rfl rfl
      (Or.inl rfl)
  · exact refused 2 (.done (.ensured (.error (.notFound ⟨"b"⟩)))) rfl trivial
  · exact refused 3 (.done (.ensured (.error (.invalidCredentials (.zeroPort "h"))))) rfl trivial

end World
end BridgeKeeper.Bridge
