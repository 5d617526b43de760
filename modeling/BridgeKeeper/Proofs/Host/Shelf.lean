import BridgeKeeper.Host.Sharing
import BridgeKeeper.Proofs.Disk.Saving
import BridgeKeeper.Proofs.Host.Atomic
import BridgeKeeper.Proofs.Host.Book
import BridgeKeeper.Proofs.Host.Codec

/-!
# The file of the hosts as a map

Calls to a store that come one after another go as on a map from nicknames to hosts. The map starts
with what the file holds, or empty where there is none, and changes with each host that is stored.
Every host that is stored leaves a file that denotes the map, however many calls failed before.
-/
namespace BridgeKeeper.Host

open Disk

variable {p : Path} {time : String} {d d' : Disk} {b : Book} {m : Shelf}

/-! ## Files that hold a book -/

def Holds (d : Disk) (p : Path) (b : Book) : Prop :=
  ∃ text, d.readText p = .ok text ∧ Json.ofText? text >>= Book.ofJson? = some b

theorem holds_of_read (h : d.read p = .ok (saveBytes b.toJson)) : Holds d p b :=
  ⟨b.toJson.pretty, readText_of_saved h, b.ofText?_pretty⟩

theorem Holds.kept (h : Holds d p b) (kept : Kept d d' p) : Holds d' p b := by
  obtain ⟨text, there, denotes⟩ := h
  obtain ⟨c, read, decoded⟩ := readText_eq_ok_iff.mp there
  exact ⟨text, readText_eq_ok_iff.mpr ⟨c, kept.read read, decoded⟩, denotes⟩

namespace Store

theorem load_of_missing (h : d.readText p = .error .notFound) (time : String) :
    load p time d = (.ok .empty, d) := by
  rw [load, Disk.load, h]

theorem load_of_failed {e : IoError} (other : e ≠ .notFound) (h : d.readText p = .error e)
    (time : String) : load p time d = (.error (.io e), d) := by
  rw [load, Disk.load, h]
  split <;> simp_all

theorem load_of_holds (h : Holds d p b) (known : b.version ≤ Settings.supportedVersion)
    (time : String) : load p time d = (.ok b, d) := by
  obtain ⟨text, there, denotes⟩ := h
  have understood : ¬ Settings.supportedVersion < b.version := UInt32.not_lt.mpr known
  rw [load, Disk.load, there]
  simp only [denotes, Settings.checkVersion, understood, if_false]
  rfl

theorem load_of_newer (h : Holds d p b) (newer : Settings.supportedVersion < b.version)
    (time : String) :
    load p time d = (.error (.versionTooNew b.version Settings.supportedVersion), d) := by
  obtain ⟨text, there, denotes⟩ := h
  rw [load, Disk.load, there]
  simp only [denotes, Settings.checkVersion, newer, if_true]
  rfl

/-- A host stored in a file that holds a book leaves one that holds the book with the host in it. -/
theorem holds_upsert (h : Holds d p b) (tidy : b.Tidy) (s : Stored) (time : String) :
    Holds (upsert p time s d).2 p
      (if (upsert p time s d).1.isOk then b.upsert s else b) := by
  have settled := (upserts_upsert p time s d).shelved
  cases stored : (upsert p time s d).1.isOk with
  | false =>
    rw [stored] at settled
    exact h.kept settled
  | true =>
    rw [stored] at settled
    obtain ⟨b', loaded, replaced⟩ := settled
    rw [load_of_holds h tidy.version time, Except.ok.injEq] at loaded
    rw [loaded]
    exact holds_of_read replaced.read

end Store

/-! ## Calls one after another -/

/-- A disk, the map that the calls so far come to, and whether there was a file at first or a host was
stored since. -/
structure Served where
  disk : Disk
  shelf : Shelf
  there : Bool

namespace Served

def serve (p : Path) (x : Served) (time : String) (c : StoreCall) : Served :=
  match c, c.alone p time x.disk with
  | .upsert s, (.stored (.ok ()), d) => ⟨d, put x.shelf s.record.nickname (some s), true⟩
  | _, (_, d) => { x with disk := d }

def run (p : Path) (x : Served) (calls : List (String × StoreCall)) : Served :=
  calls.foldl (fun x c => x.serve p c.1 c.2) x

end Served

/-- How a disk stands to the map: nothing was there yet, or the file cannot be replaced, or it holds
the map. -/
inductive Stage (p : Path) (d : Disk) (m : Shelf) : Bool → Prop
  | missing : d.readText p = .error .notFound → m = Book.empty.shelf → Stage p d m false
  | stuck : Stuck d p → Stage p d m false
  | holds {b : Book} : Holds d p b → b.Tidy → m = b.shelf → Stage p d m true

/-- What cannot be replaced stays so. -/
theorem stuck_upsert (h : Stuck d p) (time : String) (s : Stored) :
    (Store.upsert p time s d).1.isOk = false ∧ Stuck (Store.upsert p time s d).2 p := by
  rcases h with ⟨e, other, failed⟩ | ⟨reaches, blocked⟩
  · rw [Store.upsert, Store.load_of_failed other failed]
    exact ⟨rfl, Or.inl ⟨e, other, failed⟩⟩
  · have same := load_sameDirectories Book.ofJson? p time d
    rw [Store.upsert, Store.load_eq]
    generalize (Disk.load Book.ofJson? p time d).2 = d₁ at same
    have reaches₁ := reaches.keeps same.1
    have blocked₁ : ¬ Replaceable d₁ p := fun free => blocked ((same.replaceable_iff p).mp free)
    cases Store.judge (Disk.load Book.ofJson? p time d).1 with
    | error e => exact ⟨rfl, Or.inr ⟨reaches₁, blocked₁⟩⟩
    | ok b =>
      obtain ⟨done, same₁⟩ := save_of_reaches reaches₁ (b.upsert s).toJson
      refine ⟨?_, Or.inr ⟨reaches₁.keeps same₁.1, ?_⟩⟩
      · simp only
        cases saved : (Disk.save (b.upsert s).toJson p d₁).1 with
        | ok u => exact absurd (done.mp saved) blocked₁
        | error e => rfl
      · exact fun free => blocked₁ ((same₁.replaceable_iff p).mp free)

/-- A host stored where nothing was makes the first book; a failure leaves the chance to try again, or
there never was one. -/
theorem missing_upsert (h : d.readText p = .error .notFound) (time : String) (s : Stored) :
    if (Store.upsert p time s d).1.isOk then
      Holds (Store.upsert p time s d).2 p (Book.empty.upsert s)
    else (Store.upsert p time s d).2.readText p = .error .notFound ∨
      Stuck (Store.upsert p time s d).2 p := by
  have settled := (Store.upserts_upsert p time s d).shelved
  cases stored : (Store.upsert p time s d).1.isOk with
  | true =>
    rw [stored] at settled
    obtain ⟨b, loaded, replaced⟩ := settled
    rw [Store.load_of_missing h, Except.ok.injEq] at loaded
    rw [loaded]
    exact holds_of_read replaced.read
  | false =>
    rw [Store.upsert, Store.load_of_missing h] at stored ⊢
    refine stuck_of_save_failed fun saved => ?_
    simp only [saved] at stored
    cases stored

theorem Stage.upsert {there : Bool} (h : Stage p d m there) (time : String) (s : Stored) :
    Stage p (Store.upsert p time s d).2
      (if (Store.upsert p time s d).1.isOk then put m s.record.nickname (some s) else m)
      (there || (Store.upsert p time s d).1.isOk) := by
  cases h with
  | missing nothing empty =>
    have next := missing_upsert nothing time s
    cases stored : (Store.upsert p time s d).1.isOk with
    | true =>
      rw [stored] at next
      refine .holds next (Book.tidy_empty.upsert s) ?_
      rw [Book.shelf_upsert, empty]
      rfl
    | false =>
      rw [stored] at next
      rcases next with nothing | stuck
      · exact .missing nothing empty
      · exact .stuck stuck
  | stuck stuck =>
    have ⟨failed, stuck⟩ := stuck_upsert stuck time s
    rw [failed]
    exact .stuck stuck
  | @holds b holds tidy same =>
    have next := Store.holds_upsert holds tidy s time
    cases stored : (Store.upsert p time s d).1.isOk with
    | true =>
      rw [stored] at next
      refine .holds next (tidy.upsert s) ?_
      rw [same]
      exact (b.shelf_upsert s).symm
    | false =>
      rw [stored] at next
      exact .holds next tidy same

/-- Reading leaves the disk at its stage. -/
theorem Stage.load {there : Bool} (h : Stage p d m there) (time : String) :
    Stage p (Disk.load Book.ofJson? p time d).2 m there := by
  cases h with
  | missing nothing empty =>
    have := congrArg Prod.snd (Store.load_of_missing nothing time)
    rw [Store.load_eq] at this
    rw [this]
    exact .missing nothing empty
  | stuck stuck => exact .stuck (stuck.load Book.ofJson? time)
  | holds holds tidy same => exact .holds (holds.kept (load_kept _ p time d)) tidy same

namespace Served

theorem serve_upsert (p : Path) (x : Served) (time : String) (s : Stored) :
    x.serve p time (.upsert s) = ⟨(Store.upsert p time s x.disk).2,
      if (Store.upsert p time s x.disk).1.isOk then put x.shelf s.record.nickname (some s)
      else x.shelf,
      x.there || (Store.upsert p time s x.disk).1.isOk⟩ := by
  simp only [serve, StoreCall.alone]
  rcases Store.upsert p time s x.disk with ⟨_ | _, d⟩ <;> simp [Except.isOk, Except.toBool]

theorem stage_serve {x : Served} (h : Stage p x.disk x.shelf x.there) (time : String)
    (c : StoreCall) :
    Stage p (x.serve p time c).disk (x.serve p time c).shelf (x.serve p time c).there := by
  cases c with
  | upsert s =>
    rw [serve_upsert]
    exact h.upsert time s
  | hosts only =>
    have next := h.load time
    rw [← Store.hosts_snd p time only] at next
    exact next
  | rules nickname =>
    have next := h.load time
    rw [← Store.rules_snd p time nickname] at next
    exact next

theorem run_cons (p : Path) (x : Served) (c : String × StoreCall)
    (rest : List (String × StoreCall)) : x.run p (c :: rest) = (x.serve p c.1 c.2).run p rest := rfl

theorem there_serve {x : Served} (there : x.there = true) (time : String) (c : StoreCall) :
    (x.serve p time c).there = true := by
  cases c with
  | upsert s => rw [serve_upsert, there, Bool.true_or]
  | hosts only => exact there
  | rules nickname => exact there

/-- Once the file is there, it stays. -/
theorem there_run {x : Served} (there : x.there = true) (calls : List (String × StoreCall)) :
    (x.run p calls).there = true := by
  induction calls generalizing x with
  | nil => exact there
  | cons c rest ih => exact ih (there_serve there c.1 c.2)

theorem stage_run {x : Served} (h : Stage p x.disk x.shelf x.there)
    (calls : List (String × StoreCall)) :
    Stage p (x.run p calls).disk (x.run p calls).shelf (x.run p calls).there := by
  induction calls generalizing x with
  | nil => exact h
  | cons c rest ih => exact ih (stage_serve h c.1 c.2)

end Served

/-! ## What is read -/

/-- The file at a path denotes a map, and what a store answers is what the map says. A host can be
stored as long as the file can be replaced. -/
structure Shows (p : Path) (d : Disk) (m : Shelf) : Prop where
  decodes : ∃ b, Holds d p b
  hosts : ∃ rs : List Record,
    (∀ time, Store.hosts p time false d = (.ok rs, d)) ∧
    (∀ time, Store.hosts p time true d = (.ok (rs.filter Record.hasConnected), d)) ∧
    (rs.Pairwise fun x y => x.nickname < y.nickname) ∧
    ∀ r, r ∈ rs ↔ ∃ s, m r.nickname = some s ∧ s.record = r
  rules : ∀ time nickname, Store.rules p time nickname d =
    (.ok ((m nickname).elim [] Stored.rules), d)
  stores : ∀ time s, (Store.upsert p time s d).1 = .ok () ↔ Replaceable d p

theorem Holds.reaches (h : Holds d p b) : d.Reaches (Path.parent p) := by
  obtain ⟨text, there, -⟩ := h
  obtain ⟨c, read, -⟩ := readText_eq_ok_iff.mp there
  obtain ⟨q, place, -⟩ := read_eq_ok_iff.mp read
  exact reaches_parent place

theorem Holds.shows (h : Holds d p b) (tidy : b.Tidy) : Shows p d b.shelf := by
  refine ⟨⟨b, h⟩, ⟨b.records false, ?_, ?_, tidy.pairwise_records false, ?_⟩, ?_, ?_⟩
  · intro time
    rw [Store.hosts, Store.load_of_holds h tidy.version]
    rfl
  · intro time
    rw [Store.hosts, Store.load_of_holds h tidy.version, ← tidy.records_true]
    rfl
  · intro r
    rw [Book.mem_records]
    constructor
    · rintro ⟨⟨s, there, rfl⟩, -⟩
      exact ⟨s, tidy.mem_hosts_iff.mp there, rfl⟩
    · rintro ⟨s, there, rfl⟩
      exact ⟨⟨s, tidy.mem_hosts_iff.mpr there, rfl⟩, by simp⟩
  · intro time nickname
    rw [Store.rules, Store.load_of_holds h tidy.version]
    simp only [Except.map, Book.rulesOf, Book.shelf]
    cases b.hosts.find? fun h => h.record.nickname = nickname <;> rfl
  · intro time s
    rw [Store.upsert, Store.load_of_holds h tidy.version]
    exact (save_of_reaches h.reaches _).1

/-- Whatever calls came before, once a host was stored, or where the file held a book at first, the
file denotes the map of all that was stored, and that is what is read. -/
theorem store_refines_map {there : Bool}
    (start : there = false ∧ d.readText p = .error .notFound ∧ b = .empty ∨
      there = true ∧ Holds d p b)
    (tidy : b.Tidy) (calls : List (String × StoreCall))
    (filled : (Served.run p ⟨d, b.shelf, there⟩ calls).there = true) :
    Shows p (Served.run p ⟨d, b.shelf, there⟩ calls).disk
      (Served.run p ⟨d, b.shelf, there⟩ calls).shelf := by
  have stage : Stage p d b.shelf there := by
    rcases start with ⟨rfl, nothing, rfl⟩ | ⟨rfl, holds⟩
    · exact .missing nothing rfl
    · exact .holds holds tidy rfl
  have final := Served.stage_run (x := ⟨d, b.shelf, there⟩) stage calls
  rw [filled] at final
  cases final with
  | holds holds tidy same =>
    rw [same]
    exact holds.shows tidy

/-- A host is stored where nothing was, and then another under its nickname. -/
theorem store_refines_map_fresh :
    let host : Record := ⟨"box", "ssh", "alice", "10.0.0.5", 22, "", "", 0⟩
    let x := Served.run ["hosts.json"] ⟨Disk.empty, Book.empty.shelf, false⟩ [
      ("20260101_000000", .upsert ⟨host, []⟩),
      ("20260101_000001", .upsert ⟨{ host with port := 2222 }, []⟩)]
    x.there = true ∧ Shows ["hosts.json"] x.disk x.shelf := by
  intro host x
  have nothing : Disk.empty.readText ["hosts.json"] = .error .notFound := by rfl
  have reaches : Disk.empty.Reaches (Path.parent ["hosts.json"]) :=
    ⟨by decide, by decide, [], by rfl⟩
  have replaceable : Replaceable Disk.empty ["hosts.json"] :=
    ⟨⟨["hosts.json.tmp"], by rfl, by decide⟩, ⟨["hosts.json"], by rfl, by decide⟩⟩
  have first : (Served.serve ["hosts.json"] ⟨Disk.empty, Book.empty.shelf, false⟩ "20260101_000000"
      (.upsert ⟨host, []⟩)).there = true := by
    rw [Served.serve_upsert, Store.upsert, Store.load_of_missing nothing]
    simp only [(save_of_reaches reaches _).1.mpr replaceable]
    rfl
  have filled : x.there = true := by
    rw [show x = Served.run _ _ (_ :: _) from rfl, Served.run_cons]
    exact Served.there_run first _
  exact ⟨filled, store_refines_map (Or.inl ⟨rfl, nothing, rfl⟩) Book.tidy_empty _ filled⟩

end BridgeKeeper.Host
