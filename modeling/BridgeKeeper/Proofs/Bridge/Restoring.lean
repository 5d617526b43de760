import BridgeKeeper.Boot.Run
import BridgeKeeper.Proofs.Bridge.Calls
import BridgeKeeper.Proofs.Host.Naming

/-!
# Boot runs that skip no host

A boot run skips the default host only if that has no identity. It has one where it was made from
credentials with a user and with a host that a URL can name.
-/
namespace BridgeKeeper.Bridge.World

open Host (Record)

variable {w : World} {t : TaskId} {p q : Phase} {x : Event}

def Restorable (p : Boot.Plan) : Prop :=
  ∃ host others i, p.source.hosts = .ok (host :: others) ∧ host.identity? = some i

/-- A phase from which no boot run goes on to skip the default host. -/
def SkipsNone : Phase → Prop
  | .boot p => Restorable p
  | .reporting _ o | .done (.booted o) => ∀ n, o ≠ .skipped n
  | _ => True

theorem skipsNone_failed (a : Boot.Attempt) (reason : String) : SkipsNone (failedPhase a reason) := by
  rw [failedPhase]
  split <;> exact fun _ same => by cases same

theorem skipsNone_after (c : Caller) (r : Except Error EntryId) : SkipsNone (c.after r) := by
  cases c with
  | plain => trivial
  | boot a =>
    cases r with
    | error e => exact skipsNone_failed a _
    | ok e =>
      intro n same
      rw [Boot.Attempt.success] at same
      split at same <;> cases same

theorem skipsNone_resumed (q : Sequel) (w : World) (e : EntryId) : SkipsNone (q.after w e) := by
  cases q with
  | discarded c => exact skipsNone_after c _
  | _ => trivial

theorem skipsNone_upon (q : Sequel) (w : World) (e : EntryId) (s : Option SessionId) :
    SkipsNone (q.upon w e s) :=
  q.upon_holds w e s (fun _ => trivial) (skipsNone_resumed q w e)

/-- The first step of a boot run. -/
theorem skipsNone_of_looks {p : Boot.Plan} (looks : Looks w p q) (h : Restorable p) : SkipsNone q := by
  obtain ⟨host, others, i, hosts, identity⟩ := h
  cases looks with
  | skipped read unnamed =>
    cases hosts.symm.trans read
    cases identity.symm.trans unnamed
  | unread | noHosts | reused => exact fun _ same => by cases same
  | found => trivial

theorem skipsNone_apply (there : t < w.spawned) (before : ∀ p, w.tasks t = some p → SkipsNone p)
    (hq : (w.apply x).tasks t = some q) : SkipsNone q := by
  have change := (apply_move w x).task hq
  cases change with
  | kept old => exact before q old
  | started new => exact absurd new (Nat.ne_of_lt there)
  | passed old passes =>
    cases passes with
    | ensured | joined => exact skipsNone_after _ _
    | bootOver o => exact skipsNone_of_looks (looks_of_apply old hq) (before _ old)
    | bootFailed reason => exact skipsNone_failed _ _
    | _ => trivial
  | ended old ends =>
    cases ends with
    | remove | clear | disconnect | settled => exact skipsNone_upon _ _ _ _
    | _ => trivial
  | closed old => exact skipsNone_resumed _ _ _
  | answered old given => exact skipsNone_after _ _
  | @replied _ r o old => exact (before (.reporting r o) old : ∀ n, o ≠ .skipped n)
  | opening | discarded | aborted | watching => trivial

theorem skipsNone_run (xs : List Event) (there : t < w.spawned)
    (before : ∀ p, w.tasks t = some p → SkipsNone p) (hq : (w.run xs).tasks t = some q) : SkipsNone q := by
  induction xs generalizing w with
  | nil => exact before q hq
  | cons x xs ih =>
    exact ih (Nat.lt_of_lt_of_le there (apply_move w x).spawned_le)
      (fun p old => skipsNone_apply there before old) hq

/-- Whatever happens, a boot run does not skip a default host that has an identity. -/
theorem outcome?_ne_skipped {p : Boot.Plan} (h : Restorable p) (w : World) (xs : List Event) (n : String) :
    Boot.outcome? (w.run (.start (.boot p) :: xs)) w.spawned ≠ some (.skipped n) := by
  intro ended
  rw [Boot.outcome?] at ended
  split at ended
  · next o done =>
    cases ended
    have started : ∀ q, (w.apply (.start (.boot p))).tasks w.spawned = some q → SkipsNone q := by
      intro q hq
      simp only [apply, spawn, put_same, Option.some.injEq, Operation.start] at hq
      rw [← hq]
      exact h
    exact skipsNone_run xs (Nat.lt_succ_self _) started done n rfl
  · cases ended

/-- Credentials that pass their check make a host with an identity, named after user and host, if they have
a user and their host is one that a URL can name; no boot run skips such a default host. -/
theorem provisioned_host_restored {c : Credentials} (passes : c.check = .ok ()) (user : c.user ≠ "")
    (names : Record.NamesPlace c.host c.port) (account : String) :
    (Record.provisioned c account).identity? = some ⟨(Record.provisioned c account).displayName⟩ ∧
      ∀ (p : Boot.Plan) (others : List Record),
        p.source.hosts = .ok (Record.provisioned c account :: others) → ∀ (xs ys : List Event) (n : String),
          Boot.outcome? (run {} (xs ++ .start (.boot p) :: ys)) (run {} xs).spawned ≠ some (.skipped n) := by
  have identity := Record.identity?_provisioned passes user names account
  refine ⟨identity, fun p others hosts xs ys n => ?_⟩
  rw [run, List.foldl_append]
  exact outcome?_ne_skipped ⟨_, others, _, hosts, identity⟩ (run {} xs) ys n

/-- The host `10.0.0.5` with the user `alice`. -/
theorem provisioned_host_restored_alice :
    (Record.provisioned ⟨"10.0.0.5", "alice", "pw", 22, []⟩ "a@b.example").identity? =
        some ⟨"alice@10.0.0.5"⟩ ∧
      ∀ ys n, Boot.outcome? (run {} (.start (.boot ⟨⟨.ok [Record.provisioned
        ⟨"10.0.0.5", "alice", "pw", 22, []⟩ "a@b.example"], fun _ => .ok []⟩, false, ""⟩) :: ys)) 0 ≠
          some (.skipped n) := by
  have host : Url.parseOpaqueHost (Url.unbroken "10.0.0.5".toList) = .ok (.name "10.0.0.5".toList) := rfl
  have names : Record.NamesPlace "10.0.0.5" 22 := Record.namesPlace_of_host (by decide) host 22
  obtain ⟨identity, restored⟩ := provisioned_host_restored (c := ⟨"10.0.0.5", "alice", "pw", 22, []⟩) rfl
    (by decide) names "a@b.example"
  exact ⟨identity, fun ys n => restored _ [] rfl [] ys n⟩

/-- Without a user there is no identity, and a boot run skips the host. -/
theorem provisioned_host_without_user :
    (Credentials.mk "10.0.0.5" "" "pw" 22 []).check = .ok () ∧
      (Record.provisioned ⟨"10.0.0.5", "", "pw", 22, []⟩ "a@b.example").identity? = none ∧
      Boot.outcome? (run {} [.start (.boot ⟨⟨.ok [Record.provisioned
        ⟨"10.0.0.5", "", "pw", 22, []⟩ "a@b.example"], fun _ => .ok []⟩, false, ""⟩), .run 0 {}]) 0 =
          some (.skipped "") := by
  exact ⟨rfl, by decide +kernel, by decide +kernel⟩

end BridgeKeeper.Bridge.World
