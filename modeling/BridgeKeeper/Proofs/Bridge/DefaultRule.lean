import BridgeKeeper.Probe.Target
import BridgeKeeper.Proofs.Bridge.Calls
import BridgeKeeper.Proofs.Host.DefaultHost
import BridgeKeeper.Proofs.Host.Provisioning

/-!
# The rule that is opened is the rule that is probed

A boot run asks for the bridge of the default host with the rules that are read for it, and the first of
them goes to the transport. The probed port is told by the first of the rules that are read for the
default host. Both read the same file, each on its own, and both arrive at one host of it.
-/
namespace BridgeKeeper.Bridge

open Host (Source Stored)

/-- An event calls the transport for what a task asks for, or calls nothing. -/
theorem Move.called {w v : World} {x : Event} (h : Move w x v) : v.calls = w.calls ∨
    ∃ t m c i r, x = .run t m ∧ w.tasks t = some (.ensure c i (some r)) ∧
      v.calls = w.calls ++ [⟨i, r.credentials, r.rule⟩] := by
  cases h with
  | rest | start | answer | listen | session | reply | abort | pass => exact .inl rfl
  | cancel | fail => rw [World.rollBack_eq]; exact .inl rfl
  | ends => rw [World.tells_retire]; exact .inl rfl
  | closed => rw [World.sessionEvent_eq]; exact .inl rfl
  | unlist => rw [World.unlist_eq]; exact .inl rfl
  | commit | discard => rw [World.received_eq]; exact .inl rfl
  | place ht => exact .inr ⟨_, _, _, _, _, rfl, ht, rfl⟩

structure Gives (s : Source) (h : Host.Record) (rules : List Forward.Rule) : Prop where
  host : ∃ rest, s.hosts = .ok (h :: rest)
  rules : s.rules h = .ok rules

/-- What a boot run goes for, phase by phase: the default host of its source, and its rules. -/
def Phase.Follows (s : Source) : Phase → Prop
  | .boot p => p.source = s
  | .bootRules a => a.plan.source = s ∧ a.host.identity? = some a.identity ∧
      ∃ rest, s.hosts = .ok (a.host :: rest)
  | .ensure _ i r => ∃ h rules, Gives s h rules ∧ h.identity? = some i ∧
      r = some (.ofCredentials (h.credentials rules))
  | _ => True

theorem Phase.follows_of_not_mayCall {s : Source} {p : Phase} (past : ¬ p.MayCall) : p.Follows s := by
  cases p with
  | boot | bootRules | ensure => exact absurd trivial past
  | _ => trivial

namespace World

variable {w : World} {t : TaskId} {m : Meanwhile} {s : Source} {p : Boot.Plan} {q : Phase}
  {a : Boot.Attempt} {x : Event} {c : Call}

theorem follows_of_looks (looks : Looks w p q) : q.Follows p.source := by
  cases looks with
  | found read names => exact ⟨rfl, names, _, read⟩
  | unread | noHosts | skipped | reused => trivial

theorem follows_bootRules (follows : (Phase.bootRules a).Follows s)
    (hq : (w.bootRules t a).tasks t = some q) : q.Follows s := by
  obtain ⟨source, names, host⟩ := follows
  rw [bootRules, source] at hq
  split at hq
  · rw [bootFailed_eq, proceed] at hq
    simp only [put_same, Option.some.injEq] at hq
    subst q
    exact Phase.follows_of_not_mayCall (failedPhase_hasResult _ _).not_mayCall
  · next rules read =>
    simp only [setTask, put_same, Option.some.injEq] at hq
    subst q
    exact ⟨a.host, rules, ⟨host, read⟩, names, rfl⟩

/-- Who goes for the default host of a source still does after an event. -/
theorem follows_apply (started : t < w.spawned) (follows : ∀ p, w.tasks t = some p → p.Follows s)
    (hq : (w.apply x).tasks t = some q) : q.Follows s := by
  cases (apply_move w x).task hq with
  | kept old => exact follows _ old
  | started new => exact absurd new (Nat.ne_of_lt started)
  | passed old passes =>
    have before := follows _ old
    cases passes with
    | bootFound a =>
      have next := follows_of_looks (looks_of_apply old hq)
      rwa [before] at next
    | bootAsks =>
      simp only [apply, step, old, isReady, if_true, advance] at hq
      exact follows_bootRules before hq
    | ensured | joined => exact Phase.follows_of_not_mayCall (Caller.after_hasResult _ _).not_mayCall
    | bootFailed => exact Phase.follows_of_not_mayCall (failedPhase_hasResult _ _).not_mayCall
    | _ => trivial
  | ended old ends =>
    cases ends with
    | replace => exact follows _ old
    | remove | clear | disconnect | settled =>
      exact Phase.follows_of_not_mayCall (Sequel.upon_not_mayCall _ _ _ _)
    | _ => trivial
  | closed => exact Phase.follows_of_not_mayCall (Sequel.after_not_mayCall _ _ _)
  | answered => exact Phase.follows_of_not_mayCall (Caller.after_hasResult _ _).not_mayCall
  | opening | discarded | replied | aborted | watching => trivial

/-- It calls the transport for that host only, with the first of its rules. -/
theorem mem_callsBy_of_follows {xs : List Event} (started : t < w.spawned)
    (follows : ∀ p, w.tasks t = some p → p.Follows s) (called : c ∈ w.callsBy t xs) :
    ∃ h rules, Gives s h rules ∧ h.identity? = some c.identity ∧
      c.credentials = h.credentials rules ∧ c.rule = rules.head? := by
  induction xs generalizing w with
  | nil => cases called
  | cons x xs ih =>
    have move := apply_move w x
    rcases List.mem_append.mp called with now | later
    · split at now
      · next mine =>
        rcases move.called with none | ⟨u, m, caller, i, r, rfl, asking, calls⟩
        · rw [none, List.drop_length] at now
          cases now
        · cases mine
          rw [calls, List.drop_left, List.mem_singleton] at now
          obtain ⟨h, rules, gives, names, request⟩ := follows _ asking
          cases request
          rw [now]
          exact ⟨h, rules, gives, names, rfl, rfl⟩
      · cases now
    · exact ih (Nat.lt_of_lt_of_le started move.spawned_le) (fun q => follows_apply started follows) later

/-- A boot run from the start on, whatever else happens. -/
theorem mem_callsBy_boot {xs : List Event} (called : c ∈ callsBy {} 0 (.start (.boot p) :: xs)) :
    ∃ h rules, Gives p.source h rules ∧ h.identity? = some c.identity ∧
      c.credentials = h.credentials rules ∧ c.rule = rules.head? := by
  have follows : ∀ q, (apply {} (.start (.boot p))).tasks 0 = some q → q.Follows p.source := by
    intro q hq
    cases hq
    rfl
  exact mem_callsBy_of_follows (w := apply {} (.start (.boot p))) Nat.one_pos follows called

/-- A boot run that nothing interferes with, up to the answer of the transport. -/
def undisturbed (p : Boot.Plan) : List Event :=
  [.start (.boot p), .run 0 {}, .run 0 {}, .run 0 {}]

theorem calls_undisturbed {h : Host.Record} {rules : List Forward.Rule} {i : Identity}
    (gives : Gives p.source h rules) (names : h.identity? = some i)
    (usable : (Request.ofCredentials (h.credentials rules)).check = .ok ()) :
    (run {} (undisturbed p)).calls = [⟨i, h.credentials rules, rules.head?⟩] := by
  obtain ⟨rest, hosts⟩ := gives.host
  have request : (Boot.Attempt.request ⟨p, h, i, none⟩ rules).check = .ok () := usable
  have looked : run {} [.start (.boot p), .run 0 {}] =
      (spawn {} (.boot p)).setTask 0 (.bootRules ⟨p, h, i, none⟩) := by
    simp [run, apply, Operation.start, step, spawn, put_same, isReady, advance, bootHosts, hosts, names]
  have asked : run {} [.start (.boot p), .run 0 {}, .run 0 {}] =
      (run {} [.start (.boot p), .run 0 {}]).setTask 0
        (.ensure (.boot ⟨p, h, i, none⟩) i (some (Boot.Attempt.request ⟨p, h, i, none⟩ rules))) := by
    rw [show run {} [.start (.boot p), .run 0 {}, .run 0 {}] =
      (run {} [.start (.boot p), .run 0 {}]).step 0 {} from rfl, looked]
    simp [step, setTask, put_same, isReady, advance, bootRules, gives.rules]
  rw [undisturbed, show run {} [.start (.boot p), .run 0 {}, .run 0 {}, .run 0 {}] =
    (run {} [.start (.boot p), .run 0 {}, .run 0 {}]).step 0 {} from rfl, asked, looked]
  simp only [step, setTask, put_same, isReady, if_true, advance, ensure, spawn, request]
  rfl

end World

/-- A host decides what is opened at boot and what is probed: boot runs call the transport for it, with
the first of its rules, and that rule tells the port. -/
structure GoesBy (s : Source) (h : Stored) : Prop where
  host : ∃ rest, s.hosts = .ok (h.record :: rest)
  rules : s.rules h.record = .ok h.rules
  probed : ∀ port, Probe.defaultTarget s port = (h.rules.head?.map (Probe.target · port)).getD port
  called : ∀ reports now xs, ∀ c ∈ World.callsBy {} 0 (.start (.boot ⟨s, reports, now⟩) :: xs),
    h.record.identity? = some c.identity ∧ c.credentials = h.record.credentials h.rules ∧
      c.rule = h.rules.head?
  calls : ∀ i, h.record.identity? = some i →
    (Request.ofCredentials (h.record.credentials h.rules)).check = .ok () → ∀ reports now,
      (World.run {} (World.undisturbed ⟨s, reports, now⟩)).calls =
        [⟨i, h.record.credentials h.rules, h.rules.head?⟩]

structure GoesByNone (s : Source) : Prop where
  probed : ∀ port, Probe.defaultTarget s port = port
  called : ∀ reports now xs, World.callsBy {} 0 (.start (.boot ⟨s, reports, now⟩) :: xs) = []

theorem Gives.firstRule? {s : Source} {h : Host.Record} {rules : List Forward.Rule}
    (gives : Gives s h rules) : s.firstRule? = rules.head? := by
  obtain ⟨rest, hosts⟩ := gives.host
  simp [Source.firstRule?, hosts, gives.rules, Except.toOption]

theorem Gives.goesBy {s : Source} {h : Stored} (gives : Gives s h.record h.rules) : GoesBy s h where
  host := gives.host
  rules := gives.rules
  probed port := by
    rw [Probe.defaultTarget, gives.firstRule?]
    cases h.rules.head? <;> rfl
  called reports now xs c called := by
    obtain ⟨other, rules, given, names, credentials, rule⟩ := World.mem_callsBy_boot called
    obtain ⟨rest, hosts⟩ := gives.host
    obtain ⟨rest', hosts'⟩ := given.host
    have same : h.record = other := (List.cons.inj (Except.ok.inj (hosts.symm.trans hosts'))).1
    subst same
    have same : h.rules = rules := Except.ok.inj (gives.rules.symm.trans given.rules)
    subst same
    exact ⟨names, credentials, rule⟩
  calls i names usable reports now := World.calls_undisturbed gives names usable

theorem goesByNone {s : Source} (unhosted : ∀ h rest, s.hosts ≠ .ok (h :: rest)) : GoesByNone s where
  probed port := by
    have unruled : s.firstRule? = none := by
      cases read : s.hosts with
      | error e => simp [Source.firstRule?, read, Except.toOption]
      | ok hosts =>
        cases hosts with
        | nil => simp [Source.firstRule?, read, Except.toOption]
        | cons h rest => exact absurd read (unhosted h rest)
    rw [Probe.defaultTarget, unruled]
  called reports now xs := by
    refine List.eq_nil_iff_forall_not_mem.mpr fun c called => ?_
    obtain ⟨h, rules, given, -⟩ := World.mem_callsBy_boot called
    obtain ⟨rest, hosts⟩ := given.host
    exact unhosted h rest hosts

section
variable {path : Disk.Path} {time : String} {d : Disk} {b : Host.Book}

theorem gives_of_leads {h : Stored} (loaded : (Host.Store.load path time d).1 = .ok b)
    (leads : h.Leads b.hosts) : Gives (Host.Store.source path time d) h.record h.rules := by
  obtain ⟨rest, records⟩ := List.head?_eq_some_iff.mp leads.head?_records
  rw [Host.Store.source_of_load loaded]
  exact ⟨⟨rest, congrArg Except.ok records⟩, congrArg Except.ok leads.rulesOf⟩

theorem hosts_ne_of_bare (bare : ∀ b, (Host.Store.load path time d).1 = .ok b → b.hosts = [])
    (h : Host.Record) (rest : List Host.Record) :
    (Host.Store.source path time d).hosts ≠ .ok (h :: rest) := by
  intro hosts
  cases loaded : (Host.Store.load path time d).1 with
  | error e =>
    simp only [Host.Store.source, Host.Store.hosts, loaded] at hosts
    cases hosts
  | ok b =>
    rw [Host.Store.source_of_load loaded, Host.Book.records, bare b loaded] at hosts
    simp at hosts

/-- A file whose hosts are read once is read in the same way again. -/
theorem load_again (loaded : (Host.Store.load path time d).1 = .ok b) (some_ : b.hosts ≠ [])
    (time' : String) : Host.Store.load path time' d = (.ok b, d) := by
  obtain ⟨found | ⟨-, empty⟩, known⟩ := Host.Store.found_of_load loaded
  · exact Host.Store.load_of_holds found known time'
  · exact absurd (congrArg Host.Book.hosts empty) some_

end

/-- **What is opened at boot is what is probed.** Where a file has hosts, in whichever order and with
whichever nicknames, the first of those with the smallest nickname decides both, as often as the file
is read. Where there is none, nothing is opened and the default port is probed. -/
theorem opened_rule_probed (path : Disk.Path) (time : String) (d : Disk) :
    (∃ b h, (∀ time', Host.Store.load path time' d = (.ok b, d)) ∧ h.Leads b.hosts ∧
      GoesBy (Host.Store.source path time d) h) ∨
    (∀ b, (Host.Store.load path time d).1 = .ok b → b.hosts = []) ∧
      GoesByNone (Host.Store.source path time d) := by
  by_cases there : ∃ b, (Host.Store.load path time d).1 = .ok b ∧ b.hosts ≠ []
  · obtain ⟨b, loaded, some_⟩ := there
    obtain ⟨h, leads⟩ := Host.exists_leads some_
    exact .inl ⟨b, h, load_again loaded some_, leads, (gives_of_leads loaded leads).goesBy⟩
  · have bare (b : Host.Book) (loaded : (Host.Store.load path time d).1 = .ok b) : b.hosts = [] :=
      Classical.byContradiction fun some_ => there ⟨b, loaded, some_⟩
    exact .inr ⟨bare, goesByNone (hosts_ne_of_bare bare)⟩

def hostNamed (nickname : String) (rules : List Forward.Rule) : Stored :=
  ⟨⟨nickname, "ssh", "alice", "10.0.0.5", 22, "secret", "", -1⟩, rules⟩

/-- A rule whose nickname gives the port to probe. -/
def gatewayRule : Forward.Rule := ⟨"8022", true, 8080, "localhost", 80⟩

/-- Two hosts of one nickname behind another host. -/
def crowd : Host.Book :=
  ⟨1, [hostNamed "work" [], hostNamed "home" [gatewayRule], hostNamed "home" []]⟩

/-- The first of the two is opened and probed. -/
theorem opened_rule_probed_crowd :
    let d : Disk := ⟨[(["hosts.json"], .file (Disk.saveBytes crowd.toJson))]⟩
    let s := Host.Store.source ["hosts.json"] "" d
    (World.run {} (World.undisturbed ⟨s, false, ""⟩)).calls =
        [⟨⟨"home"⟩, (hostNamed "home" [gatewayRule]).record.credentials [gatewayRule], some gatewayRule⟩] ∧
      Probe.defaultTarget s 1022 = 8022 := by
  intro d s
  have holds : Host.Holds d ["hosts.json"] crowd := Host.holds_of_read (by rfl)
  have loads := Host.Store.load_of_holds holds (by decide)
  have first : (hostNamed "home" [gatewayRule]).Leads crowd.hosts :=
    ⟨[hostNamed "work" []], [hostNamed "home" []], rfl, by decide, by decide⟩
  rcases opened_rule_probed ["hosts.json"] "" d with ⟨b, h, read, leads, goesBy⟩ | ⟨bare, -⟩
  · have same : crowd = b := Except.ok.inj (congrArg Prod.fst ((loads "").symm.trans (read "")))
    subst same
    cases leads.eq first
    exact ⟨goesBy.calls ⟨"home"⟩ (by decide +kernel) (by decide) false "",
      (goesBy.probed 1022).trans (by decide)⟩
  · cases bare crowd (congrArg Prod.fst (loads ""))

end BridgeKeeper.Bridge
