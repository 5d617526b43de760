import BridgeKeeper.Host.Store

/-!
# What is told of hosts without their passwords

Hosts and credentials carry a password, and nothing that is told of them depends on it. Two hosts files
that differ in passwords only list the same hosts, in the same order and with the same rules, but for
the passwords.
-/
namespace BridgeKeeper

def Credentials.conceal (c : Credentials) : Credentials := { c with password := "" }

theorem Credentials.told_alike {c d : Credentials} (same : c.conceal = d.conceal) :
    c.debug = d.debug ∧ c.target = d.target ∧ c.check = d.check := by
  have told {α : Type} (f : Credentials → α) : f c.conceal = f d.conceal := congrArg f same
  exact ⟨told debug, told target, told check⟩

namespace Host

def Record.conceal (r : Record) : Record := { r with password := "" }

section
variable {r s : Record}

theorem Record.told_alike (same : r.conceal = s.conceal) :
    r.debug = s.debug ∧ r.displayName = s.displayName ∧ r.uri? = s.uri? ∧ r.identity? = s.identity? := by
  have told {α : Type} (f : Record → α) : f r.conceal = f s.conceal := congrArg f same
  exact ⟨told debug, told displayName, told uri?, told identity?⟩

theorem Record.nickname_alike (same : r.conceal = s.conceal) : r.nickname = s.nickname := by
  have told := congrArg nickname same
  exact told

theorem Record.email_alike (same : r.conceal = s.conceal) : r.email = s.email := by
  have told := congrArg email same
  exact told

theorem Record.credentials_alike (same : r.conceal = s.conceal) (rules : List Forward.Rule) :
    (r.credentials rules).conceal = (s.credentials rules).conceal := by
  have told := congrArg (fun r : Record => (r.credentials rules).conceal) same
  exact told

end

def Stored.conceal (s : Stored) : Stored := { s with record := s.record.conceal }

def Book.conceal (b : Book) : Book := { b with hosts := b.hosts.map Stored.conceal }

namespace Book

variable {b b' : Book}

theorem records_conceal (b : Book) (onlyConnected : Bool) :
    b.conceal.records onlyConnected = (b.records onlyConnected).map Record.conceal := by
  have records : b.conceal.hosts.map Stored.record = (b.hosts.map Stored.record).map Record.conceal := by
    simp only [conceal, List.map_map]
    rfl
  rw [Book.records, Book.records, records, List.filter_map, List.map_mergeSort]
  · rfl
  · exact fun _ _ _ _ => rfl

theorem rulesOf_conceal (b : Book) (nickname : String) :
    b.conceal.rulesOf nickname = b.rulesOf nickname := by
  have found : b.conceal.hosts.find? (fun h => h.record.nickname = nickname) =
      (b.hosts.find? fun h => h.record.nickname = nickname).map Stored.conceal := by
    rw [conceal, List.find?_map]
    rfl
  rw [rulesOf, rulesOf, found]
  cases b.hosts.find? fun h => h.record.nickname = nickname <;> rfl

end Book

/-- Sources that give the same hosts but for the passwords, and the same rules for them. -/
structure Source.Alike (s s' : Source) : Prop where
  hosts : s.hosts.map (List.map Record.conceal) = s'.hosts.map (List.map Record.conceal)
  rules : ∀ r r', r.conceal = r'.conceal → s.rules r = s'.rules r'

variable {p p' : Disk.Path} {time time' : String} {d d' : Disk} {b b' : Book}

/-- Files that differ in passwords only are sources that do. -/
theorem Store.source_alike (load : (Store.load p time d).1 = .ok b)
    (load' : (Store.load p' time' d').1 = .ok b') (same : b.conceal = b'.conceal) :
    (Store.source p time d).Alike (Store.source p' time' d') where
  hosts := by
    rw [Store.source_of_load load, Store.source_of_load load']
    simp only [Except.map, ← Book.records_conceal, same]
  rules r r' alike := by
    rw [Store.source_of_load load, Store.source_of_load load']
    simp only [Record.nickname_alike alike, ← b.rulesOf_conceal, ← b'.rulesOf_conceal, same]

end Host
end BridgeKeeper
