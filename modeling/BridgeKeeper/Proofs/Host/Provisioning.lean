import BridgeKeeper.Proofs.Bridge.Request
import BridgeKeeper.Proofs.Directory.Replies
import BridgeKeeper.Proofs.Disk.Savable
import BridgeKeeper.Proofs.Host.Shelf
import BridgeKeeper.Provision

/-!
# Provisioning is all or nothing

Whatever the directory service replies and whatever stands on the disk, provisioning either fails and
keeps the file of the hosts, or it succeeds and the file holds the hosts that it held before, with one
host inserted or replaced: the one that the first credentials stand for, with their first rule.
-/
namespace BridgeKeeper

open Disk Host

variable {p : Path} {time : String} {d d' : Disk} {account : String}

/-! ## The host that is stored -/

namespace Host

/-- The record of a host that credentials of an account stand for: to be logged in to with them, named
by how it is displayed, and never connected. -/
structure Record.StandsFor (r : Record) (c : Credentials) (account : String) : Prop where
  username : r.username = c.user
  hostname : r.hostname = c.host
  port : r.port = c.port
  password : r.password = c.password
  nickname : r.nickname = r.displayName
  protocol : r.protocol = "ssh"
  email : r.email = account
  lastConnect : r.lastConnect = -1

theorem Record.provisioned_standsFor (c : Credentials) (account : String) :
    (provisioned c account).StandsFor c account where
  username := rfl
  hostname := rfl
  port := rfl
  password := rfl
  nickname := rfl
  protocol := rfl
  email := rfl
  lastConnect := rfl

/-- A list of hosts with one put in the place of the first host of its nickname, or at the end where
there is none. -/
inductive PutIn (s : Stored) : List Stored → List Stored → Prop
  | replaced (before : List Stored) (old : Stored) (after : List Stored) :
    (∀ x ∈ before, x.record.nickname ≠ s.record.nickname) →
    old.record.nickname = s.record.nickname → PutIn s (before ++ old :: after) (before ++ s :: after)
  | inserted (l : List Stored) : (∀ x ∈ l, x.record.nickname ≠ s.record.nickname) → PutIn s l (l ++ [s])

theorem PutIn.cons {s x : Stored} {l l' : List Stored} (h : PutIn s l l')
    (other : x.record.nickname ≠ s.record.nickname) : PutIn s (x :: l) (x :: l') := by
  cases h with
  | replaced before old after others same =>
    exact .replaced (x :: before) old after (List.forall_mem_cons.mpr ⟨other, others⟩) same
  | inserted l others => exact .inserted (x :: l) (List.forall_mem_cons.mpr ⟨other, others⟩)

theorem Book.putIn_upsertIn (s : Stored) (l : List Stored) : PutIn s l (upsertIn s l) := by
  induction l with
  | nil => exact .inserted [] (by simp)
  | cons x l ih =>
    by_cases same : x.record.nickname = s.record.nickname
    · rw [upsertIn, if_pos same]
      exact .replaced [] x l (by simp) same
    · rw [upsertIn, if_neg same]
      exact ih.cons same

theorem Book.rulesOf_upsert (b : Book) (s : Stored) :
    (b.upsert s).rulesOf s.record.nickname = s.rules := by
  rw [rulesOf, upsert, find?_upsertIn, if_pos rfl]

/-! ## The file before and after -/

/-- The book that a store finds: the one in the file, or the empty one where there is no file or its
text does not decode. -/
def Found (d : Disk) (p : Path) (b : Book) : Prop :=
  Holds d p b ∨ (d.readText p = .error .notFound ∨ Undecoded Book.ofJson? d p) ∧ b = .empty

/-- A host was stored: the file holds the book that was found, with the host put in. -/
structure Stores (d d' : Disk) (p : Path) (s : Stored) (b b' : Book) : Prop where
  before : Found d p b
  after : Holds d' p b'
  version : b'.version = b.version
  hosts : PutIn s b.hosts b'.hosts
  reads (time : String) : Store.load p time d' = (.ok b', d')
  rules (time : String) : Store.rules p time s.record.nickname d' = (.ok s.rules, d')

/-- Why no host can be stored: the text at the path cannot be read, it is of a version that is too new,
or no file can be saved there. -/
inductive Unstorable (d : Disk) (p : Path) : StorageError → Prop
  | unreadable {e : IoError} : e ≠ .notFound → d.readText p = .error e → Unstorable d p (.io e)
  | tooNew {b : Book} : Holds d p b → Settings.supportedVersion < b.version →
    Unstorable d p (.versionTooNew b.version Settings.supportedVersion)
  | unsavable (e : IoError) : ¬ Savable d p → Unstorable d p (.io e)

namespace Store

variable {b : Book} {s : Stored}

/-- Only books of a version that is understood are found. -/
theorem found_of_load (h : (load p time d).1 = .ok b) :
    Found d p b ∧ b.version ≤ Settings.supportedVersion := by
  rw [load_eq, load_fst] at h
  cases there : d.readText p with
  | error e =>
    rw [there] at h
    cases e <;> simp only [judged, judge, reduceCtorEq, Except.ok.injEq] at h
    exact ⟨.inr ⟨.inl there, h.symm⟩, h ▸ UInt32.le_refl _⟩
  | ok text =>
    rw [there, judged] at h
    cases decoded : Json.ofText? text >>= Book.ofJson? with
    | none =>
      rw [decoded, judge, Except.ok.injEq] at h
      exact ⟨.inr ⟨.inr ⟨text, there, decoded⟩, h.symm⟩, h ▸ UInt32.le_refl _⟩
    | some b' =>
      rw [decoded, judge, Settings.checkVersion] at h
      split at h
      · cases h
      · next known =>
        cases h
        exact ⟨.inl ⟨text, there, decoded⟩, UInt32.not_lt.mp known⟩

theorem upsert_kept {e : StorageError} (h : (upsert p time s d).1 = .error e) :
    Kept d (upsert p time s d).2 p := by
  have settled := (upserts_upsert p time s d).shelved
  rw [h] at settled
  exact settled

/-- A host that was stored stands in the book that was loaded. -/
theorem exists_stored (h : (upsert p time s d).1 = .ok ()) :
    ∃ b, (load p time d).1 = .ok b ∧ Holds (upsert p time s d).2 p (b.upsert s) ∧
      b.version ≤ Settings.supportedVersion := by
  have settled := (upserts_upsert p time s d).shelved
  rw [h] at settled
  obtain ⟨b, loaded, replaced⟩ := settled
  exact ⟨b, loaded, holds_of_read replaced.read, (found_of_load loaded).2⟩

theorem upsert_stores (h : (upsert p time s d).1 = .ok ()) :
    ∃ b b', Stores d (upsert p time s d).2 p s b b' := by
  obtain ⟨b, loaded, after, known⟩ := exists_stored h
  have reads (time' : String) := load_of_holds after (b := b.upsert s) known time'
  refine ⟨b, b.upsert s, (found_of_load loaded).1, after, rfl, Book.putIn_upsertIn s b.hosts, reads,
    fun time' => ?_⟩
  rw [rules, reads time']
  simp only [Except.map, Book.rulesOf_upsert]

theorem unstorable_of_load {e : StorageError} (failed : (load p time d).1 = .error e) :
    Unstorable d p e := by
  rw [load_eq, load_fst] at failed
  cases there : d.readText p with
  | error e' =>
    by_cases missing : e' = .notFound
    · rw [there, missing] at failed
      cases failed
    · rw [there, judged_error missing, judge, Except.error.injEq] at failed
      exact failed ▸ .unreadable missing there
  | ok text =>
    rw [there, judged] at failed
    cases decoded : Json.ofText? text >>= Book.ofJson? with
    | none =>
      rw [decoded] at failed
      cases failed
    | some b =>
      rw [decoded, judge, Settings.checkVersion] at failed
      split at failed
      · next newer =>
        cases failed
        exact .tooNew ⟨text, there, decoded⟩ newer
      · cases failed

/-- Storing a host fails for one of the reasons. -/
theorem unstorable_of_upsert {e : StorageError} (failed : (upsert p time s d).1 = .error e) :
    Unstorable d p e := by
  cases loaded : (load p time d).1 with
  | error e' =>
    rw [upsert_of_load_error loaded, Except.error.injEq] at failed
    exact failed ▸ unstorable_of_load loaded
  | ok b =>
    rw [upsert_of_load loaded] at failed
    have unsaved : ¬ Savable d p := by
      intro savable
      rw [load_eq] at failed
      rw [(save_ok_iff_savable _ _ _).mpr ((savable_load_iff Book.ofJson? p time d).mpr savable)] at failed
      cases failed
    obtain ⟨e', same⟩ := save_error failed
    exact same ▸ .unsavable e' unsaved

/-- For each of the reasons, no host is stored. -/
theorem upsert_of_unstorable {e : StorageError} (h : Unstorable d p e) (time : String) (s : Stored) :
    (upsert p time s d).1 ≠ .ok () := by
  intro stored
  cases h with
  | unreadable other failed =>
    rw [upsert_of_load_error (congrArg Prod.fst (load_of_failed other failed time))] at stored
    cases stored
  | tooNew holds newer =>
    rw [upsert_of_load_error (congrArg Prod.fst (load_of_newer holds newer time))] at stored
    cases stored
  | unsavable e cannot =>
    obtain ⟨b, loaded, -⟩ := exists_stored stored
    rw [upsert_of_load loaded, load_eq] at stored
    exact cannot ((savable_load_iff Book.ofJson? p time d).mp ((save_ok_iff_savable _ _ _).mp stored))

/-- A host is stored exactly where none of the reasons is there. -/
theorem upsert_eq_ok_iff : (upsert p time s d).1 = .ok () ↔ ∀ e, ¬ Unstorable d p e := by
  refine ⟨fun stored e reason => upsert_of_unstorable reason time s stored, fun none => ?_⟩
  cases stored : (upsert p time s d).1 with
  | ok u => rfl
  | error e => exact absurd (unstorable_of_upsert stored) (none e)

end Store
end Host

/-! ## Provisioning -/

namespace Provision

open Directory (Reply Request)

/-- Why nothing is stored: there was no answer, it had no credentials or unusable ones first, or the
file could not be read or replaced. -/
inductive Hindered (account : String) (request : Request) (reply : Reply) (p : Path) (time : String)
    (d : Disk) : Error → Prop
  | directory {e : Directory.Error} :
    reply.Fails request (Json.Value.list? Credentials.ofJson?) e →
    Hindered account request reply p time d (.directory e)
  | none : reply.Carries (Json.Value.list? Credentials.ofJson?) [] →
    Hindered account request reply p time d (.noCredentials account)
  | unusable {first : Credentials} {rest : List Credentials} {fault : Credentials.Fault} :
    reply.Carries (Json.Value.list? Credentials.ofJson?) (first :: rest) →
    first.check = .error fault →
    Hindered account request reply p time d (.invalidCredentials fault)
  | storage {first : Credentials} {rest : List Credentials} {r : Record} {e : StorageError} :
    reply.Carries (Json.Value.list? Credentials.ofJson?) (first :: rest) → first.Usable →
    r.StandsFor first account → (Store.upsert p time ⟨r, first.rules.take 1⟩ d).1 = .error e →
    Unstorable d p e → Hindered account request reply p time d (.storage e)

/-- What comes out of provisioning: an error and the file as it was, or the host of the first
credentials, which is stored with their first rule. -/
inductive Provisions (account : String) (request : Request) (reply : Reply) (p : Path) (time : String)
    (d d' : Disk) : Except Error Record → Prop
  | nothing {e : Error} : Hindered account request reply p time d e → Kept d d' p →
    Provisions account request reply p time d d' (.error e)
  | host {first : Credentials} {rest : List Credentials} {r : Record} {b b' : Book} :
    reply.Carries (Json.Value.list? Credentials.ofJson?) (first :: rest) →
    first.Usable → r.StandsFor first account → Stores d d' p ⟨r, first.rules.take 1⟩ b b' →
    Provisions account request reply p time d d' (.ok r)

theorem toList_firstRule? (c : Credentials) : c.firstRule?.toList = c.rules.take 1 := by
  rw [Credentials.firstRule?]
  cases c.rules <;> rfl

/-- The first credentials decide what is stored. -/
theorem provisions_store_cons {request : Request} {reply : Reply} {first : Credentials}
    {rest : List Credentials}
    (carries : reply.Carries (Json.Value.list? Credentials.ofJson?) (first :: rest)) :
    Provisions account request reply p time d (store account (.ok (first :: rest)) p time d).2
      (store account (.ok (first :: rest)) p time d).1 := by
  rw [store, choose]
  cases checked : first.check with
  | error fault => exact .nothing (.unusable carries checked) (Spares.refl _ d).kept
  | ok u =>
    have usable := Credentials.check_eq_ok_iff.mp checked
    have standsFor := Record.provisioned_standsFor first account
    simp only [toList_firstRule?]
    cases stored : Store.upsert p time ⟨Record.provisioned first account, first.rules.take 1⟩ d with
    | mk outcome d' =>
      cases outcome with
      | error e =>
        have failed := congrArg Prod.fst stored
        have kept := Store.upsert_kept failed
        rw [stored] at kept
        have unstorable := Store.unstorable_of_upsert failed
        exact .nothing (.storage carries usable standsFor failed unstorable) kept
      | ok u =>
        obtain ⟨b, b', stores⟩ := Store.upsert_stores (congrArg Prod.fst stored)
        rw [stored] at stores
        exact .host carries usable standsFor stores

/-- Whatever the service replies, nothing is stored and the file of the hosts is kept, or the host of
the first credentials in the reply is stored with their first rule, and the other hosts are kept. -/
theorem run_all_or_nothing (client : Directory.Client) (account password : String)
    (service : Directory.Service) (traffic : Directory.Traffic) (p : Path) (time : String) (d : Disk) :
    let request := (client.getSettings account password).request
    let (outcome, _, d') := run client account password service traffic p time d
    Provisions account request (service.replyTo request traffic) p time d d' outcome := by
  let call := client.getSettings account password
  simp only [run, Directory.Call.send_fst]
  rcases call.answer_cases (service.replyTo call.request traffic) with
    ⟨e, answered, fails⟩ | ⟨sets, answered, carries⟩
  · rw [answered]
    exact .nothing (.directory fails) (Spares.refl _ d).kept
  · rw [answered]
    cases sets with
    | nil => exact .nothing (.none carries) (Spares.refl _ d).kept
    | cons first rest => exact provisions_store_cons carries

def localRoot : Url where
  scheme := "http".toList
  username := []
  password := []
  host := some (.name "localhost".toList)
  port := none
  path := .segments []
  query := none
  fragment := none

/-- A service with credentials for whoever asks. -/
def freehanded : Directory.Service where
  origin := localRoot
  replies := [.response 200 (Text.Utf8.encode
    "[\x7b\"host\": \"10.0.0.5\", \"user\": \"alice\", \"pass\": \"secret\"\x7d]".toList)]

/-- The host of those credentials is stored where no file was. -/
theorem run_all_or_nothing_freehanded :
    let request := (Directory.Client.getSettings ⟨localRoot⟩ "alice@b.example" "pw").request
    ∃ r t d' first rest b b',
      run ⟨localRoot⟩ "alice@b.example" "pw" freehanded [] ["hosts.json"] "20260101_000000" Disk.empty =
        (.ok r, t, d') ∧
      (freehanded.replyTo request []).Carries (Json.Value.list? Credentials.ofJson?) (first :: rest) ∧
      r.StandsFor first "alice@b.example" ∧
      Stores Disk.empty d' ["hosts.json"] ⟨r, first.rules.take 1⟩ b b' := by
  have stored (client : Directory.Client) (account password : String) (service : Directory.Service)
      (p : Path) (time : String) (d : Disk)
      (succeeds : (run client account password service [] p time d).1.isOk = true) :
      let request := (client.getSettings account password).request
      ∃ r t d' first rest b b', run client account password service [] p time d = (.ok r, t, d') ∧
        (service.replyTo request []).Carries (Json.Value.list? Credentials.ofJson?) (first :: rest) ∧
        r.StandsFor first account ∧ Stores d d' p ⟨r, first.rules.take 1⟩ b b' := by
    have all := run_all_or_nothing client account password service [] p time d
    rcases ran : run client account password service [] p time d with ⟨outcome, t, d'⟩
    rw [ran] at all succeeds
    cases all with
    | nothing => cases succeeds
    | host carries usable standsFor stores =>
      exact ⟨_, t, d', _, _, _, _, rfl, carries, standsFor, stores⟩
  exact stored ⟨localRoot⟩ "alice@b.example" "pw" freehanded ["hosts.json"] "20260101_000000" Disk.empty
    (by decide +kernel)

end Provision
end BridgeKeeper
