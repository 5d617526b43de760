import BridgeKeeper.Proofs.Disk.Savable
import BridgeKeeper.Proofs.Host.Provisioning
import BridgeKeeper.Proofs.Url.Authority

/-!
# Hosts of different logins stand side by side

The nickname of a provisioned host is its login as text. The text is read back from its end: the last `@`
stands before the host, whatever the user name is made of, and the first `:` behind it before the port,
which is left out where it is the default. So different logins have different nicknames, and a store that
was given both hosts keeps both.
-/
namespace BridgeKeeper

open Text

namespace Credentials

/-- There are a user and a host, and the host has none of the signs that stand around it in a login. -/
structure Named (c : Credentials) : Prop where
  user : c.user ≠ ""
  host : c.host ≠ ""
  colon : ':' ∉ c.host.toList
  at_ : '@' ∉ c.host.toList

def SameLogin (c c' : Credentials) : Prop :=
  c.user = c'.user ∧ c.host = c'.host ∧ c.port = c'.port

end Credentials

namespace Host

open Disk

/-! ## Reading a login back -/

section Reading

variable {c c' : Credentials} {m n : UInt16} {h h' : List Char}

def shownPort (n : UInt16) : List Char :=
  if n = defaultPort then [] else ':' :: decimal n.toNat

theorem toList_displayName {r : Record} (user : r.username ≠ "") (host : r.hostname ≠ "") :
    r.displayName.toList = r.username.toList ++ '@' :: (r.hostname.toList ++ shownPort r.port) := by
  have both : ¬ (r.username.isEmpty || r.hostname.isEmpty) = true := by simp [user, host]
  rw [Record.displayName, if_neg both, shownPort]
  by_cases default : r.port = defaultPort <;> simp [default, numeral]

theorem no_at_shownPort (n : UInt16) : '@' ∉ shownPort n := by
  intro there
  rw [shownPort] at there
  split at there
  · cases there
  · rcases List.mem_cons.mp there with same | there
    · cases same
    · exact absurd (isDigit_of_mem_decimal there) (by decide)

theorem colon_mem_shownPort (other : n ≠ defaultPort) : ':' ∈ shownPort n := by
  rw [shownPort, if_neg other]
  exact List.mem_cons_self

theorem no_colon_decimal (k : Nat) : ':' ∉ decimal k :=
  fun there => absurd (isDigit_of_mem_decimal there) (by decide)

theorem decimal_toNat_inj (same : decimal m.toNat = decimal n.toNat) : m = n := by
  have values := congrArg decimalValue same
  rw [decimalValue_decimal, decimalValue_decimal] at values
  exact UInt16.toNat_inj.mp values

/-- Host and port are told apart by the colon between them, or by there being none. -/
theorem append_shownPort_inj (bare : ':' ∉ h) (bare' : ':' ∉ h')
    (same : h ++ shownPort m = h' ++ shownPort n) : h = h' ∧ m = n := by
  by_cases default : m = defaultPort <;> by_cases default' : n = defaultPort
  · subst default default'
    exact ⟨List.append_cancel_right same, rfl⟩
  · have there := List.mem_append_right h' (colon_mem_shownPort default')
    rw [← same, default, shownPort, if_pos rfl, List.append_nil] at there
    exact absurd there bare
  · have there := List.mem_append_right h (colon_mem_shownPort default)
    rw [same, default', shownPort, if_pos rfl, List.append_nil] at there
    exact absurd there bare'
  · rw [shownPort, shownPort, if_neg default, if_neg default'] at same
    obtain ⟨hosts, -, ports⟩ := (List.append_cons_inj_of_notMem bare (no_colon_decimal _)).mp same
    exact ⟨hosts, decimal_toNat_inj ports⟩

/-- What a login shows is its user, host and port, and nothing else. -/
theorem nickname_provisioned_eq_iff (named : c.Named) (named' : c'.Named) (account account' : String) :
    (Record.provisioned c account).nickname = (Record.provisioned c' account').nickname ↔ c.SameLogin c' := by
  have shown {c : Credentials} {account : String} (named : c.Named) :
      (Record.provisioned c account).nickname.toList =
        c.user.toList ++ '@' :: (c.host.toList ++ shownPort c.port) :=
    toList_displayName named.user named.host
  have noAt {c : Credentials} (named : c.Named) : '@' ∉ c.host.toList ++ shownPort c.port :=
    fun there => (List.mem_append.mp there).elim named.at_ (no_at_shownPort c.port)
  rw [← String.toList_inj, shown named, shown named', Credentials.SameLogin]
  constructor
  · intro same
    have cut := congrArg Url.cutLogin same
    rw [Url.cutLogin_append _ (noAt named), Url.cutLogin_append _ (noAt named'), Option.some.injEq,
      Prod.mk.injEq] at cut
    obtain ⟨hosts, ports⟩ := append_shownPort_inj named.colon named'.colon cut.2
    exact ⟨String.toList_inj.mp cut.1, String.toList_inj.mp hosts, ports⟩
  · rintro ⟨users, hosts, ports⟩
    rw [users, hosts, ports]

end Reading

/-! ## Hosts that a store gives -/

variable {p : Path} {time : String} {d : Disk} {b : Book} {s x : Stored} {c c' : Credentials}

/-- Whenever a store is read it gives a host, which is among those that are listed and whose rules are
those under its nickname; and the disk stays as it is. -/
structure Gives (p : Path) (d : Disk) (s : Stored) : Prop where
  hosts (time : String) : ∃ rs, Store.hosts p time false d = (.ok rs, d) ∧ s.record ∈ rs
  rules (time : String) : Store.rules p time s.record.nickname d = (.ok s.rules, d)

/-- The file holds a book of a version that is understood, in which a host is the first of its nickname. -/
def Bears (p : Path) (d : Disk) (s : Stored) : Prop :=
  ∃ b, Holds d p b ∧ b.version ≤ Settings.supportedVersion ∧ b.shelf s.record.nickname = some s

theorem Book.rulesOf_of_shelf (first : b.shelf s.record.nickname = some s) :
    b.rulesOf s.record.nickname = s.rules := by
  rw [shelf] at first
  rw [rulesOf, first]

theorem Bears.gives (h : Bears p d s) : Gives p d s := by
  obtain ⟨b, holds, known, first⟩ := h
  refine ⟨fun time => ⟨b.records false, ?_, ?_⟩, fun time => ?_⟩
  · rw [Store.hosts, Store.load_of_holds holds known]
    rfl
  · exact Book.mem_records.mpr ⟨⟨s, List.mem_of_find?_eq_some first, rfl⟩, by simp⟩
  · rw [Store.rules, Store.load_of_holds holds known]
    simp only [Except.map, Book.rulesOf_of_shelf first]

theorem bears_upsert (stored : (Store.upsert p time s d).1 = .ok ()) :
    Bears p (Store.upsert p time s d).2 s := by
  obtain ⟨b, -, holds, known⟩ := Store.exists_stored stored
  refine ⟨b.upsert s, holds, known, ?_⟩
  rw [Book.shelf_upsert, put_same]

/-- Storing a host leaves the hosts of other nicknames where they are, also where it fails. -/
theorem Bears.upsert (h : Bears p d x) (other : x.record.nickname ≠ s.record.nickname) (time : String) :
    Bears p (Store.upsert p time s d).2 x := by
  obtain ⟨b, holds, known, first⟩ := h
  rcases stored : (Store.upsert p time s d).1 with e | u
  · exact ⟨b, holds.kept (Store.upsert_kept stored), known, first⟩
  · obtain ⟨b', loaded, after, -⟩ := Store.exists_stored stored
    rw [Store.load_of_holds holds known, Except.ok.injEq] at loaded
    subst loaded
    refine ⟨b.upsert s, after, known, ?_⟩
    rw [Book.shelf_upsert, put_other _ _ other, first]

/-- A store that took a host takes any other. -/
theorem upsert_again (stored : (Store.upsert p time x d).1 = .ok ()) (time' : String) (s : Stored) :
    (Store.upsert p time' s (Store.upsert p time x d).2).1 = .ok () := by
  obtain ⟨b, loaded, after, known⟩ := Store.exists_stored stored
  have savable : Savable (Store.upsert p time x d).2 p := by
    rw [Store.upsert] at stored ⊢
    rcases found : Store.load p time d with ⟨outcome, d₁⟩
    rw [found] at stored loaded
    simp only at loaded
    rw [loaded] at stored ⊢
    exact savable_of_saved stored
  rw [Store.upsert, Store.load_of_holds after known]
  exact (save_ok_iff_savable _ p _).mpr savable

/-- Two provisioned hosts have one nickname exactly where user, host and port are the same. So, whatever
the store held and whichever comes first, once one is stored the other can be, and the store then gives
both, unless they are the same login; the host that came last it gives in any case. -/
theorem provisioned_side_by_side (named : c.Named) (named' : c'.Named) (account account' : String)
    (rules rules' : List Forward.Rule) :
    let s : Stored := ⟨.provisioned c account, rules⟩
    let s' : Stored := ⟨.provisioned c' account', rules'⟩
    (s.record.nickname = s'.record.nickname ↔ c.SameLogin c') ∧
      ∀ p time time' d,
        let first := Store.upsert p time s d
        let second := Store.upsert p time' s' first.2
        first.1 = .ok () →
          second.1 = .ok () ∧ Gives p second.2 s' ∧ (c.SameLogin c' ∨ Gives p second.2 s) := by
  intro s s'
  have nicknames : s.record.nickname = s'.record.nickname ↔ c.SameLogin c' :=
    nickname_provisioned_eq_iff named named' account account'
  refine ⟨nicknames, ?_⟩
  intro p time time' d first second stored
  have again : second.1 = .ok () := upsert_again stored time' s'
  refine ⟨again, (bears_upsert again).gives, ?_⟩
  by_cases same : c.SameLogin c'
  · exact Or.inl same
  · exact Or.inr ((bears_upsert stored).upsert (mt nicknames.mp same) time').gives

/-- A host can be stored on an empty disk. -/
theorem upsert_empty (time : String) (s : Stored) :
    (Store.upsert ["hosts.json"] time s Disk.empty).1 = .ok () := by
  have nothing : Disk.empty.readText ["hosts.json"] = .error .notFound := rfl
  have reaches : Disk.empty.Reaches (Path.parent ["hosts.json"]) := ⟨by decide, by decide, [], rfl⟩
  have replaceable : Replaceable Disk.empty ["hosts.json"] :=
    ⟨⟨["hosts.json.tmp"], rfl, by decide⟩, ⟨["hosts.json"], rfl, by decide⟩⟩
  rw [Store.upsert, Store.load_of_missing nothing]
  exact (save_of_reaches reaches _).1.mpr replaceable

/-- A user whose name ends in what another login shows. -/
theorem provisioned_side_by_side_signs :
    let c : Credentials := ⟨"box", "ann@box:2222", "", 22, []⟩
    let c' : Credentials := ⟨"box", "ann", "", 2222, []⟩
    let s : Stored := ⟨.provisioned c "bob", []⟩
    let s' : Stored := ⟨.provisioned c' "bob", []⟩
    c.Named ∧ c'.Named ∧ s.record.nickname ≠ s'.record.nickname ∧
      let first := Store.upsert ["hosts.json"] "20260101_000000" s Disk.empty
      let second := Store.upsert ["hosts.json"] "20260101_000001" s' first.2
      first.1 = .ok () ∧ second.1 = .ok () ∧ Gives ["hosts.json"] second.2 s ∧
        Gives ["hosts.json"] second.2 s' := by
  intro c c' s s'
  have named : c.Named := ⟨by decide, by decide, by decide, by decide⟩
  have named' : c'.Named := ⟨by decide, by decide, by decide, by decide⟩
  have other : ¬ c.SameLogin c' := fun same => absurd same.1 (by decide)
  obtain ⟨nicknames, kept⟩ := provisioned_side_by_side named named' "bob" "bob" [] []
  obtain ⟨again, gives', either⟩ := kept ["hosts.json"] "20260101_000000" "20260101_000001" Disk.empty
    (upsert_empty _ s)
  exact ⟨named, named', mt nicknames.mp other, upsert_empty _ s, again, either.resolve_left other, gives'⟩

end Host
end BridgeKeeper
