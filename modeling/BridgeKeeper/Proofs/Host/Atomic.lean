import BridgeKeeper.Host.Store
import BridgeKeeper.Proofs.Disk.Loading

/-!
# Saving is all or nothing

Whatever fails while settings are saved or a host is stored, and wherever the program stops, the path
leads to the old file or to the whole new one, and to the old one whenever an error is returned.
Reading never changes the file that it reads. A path may lead to a file only once directories on the way
are made, which is done first: such a file is not changed either, though it was not found before.
-/
namespace BridgeKeeper

open Disk

variable {p : Path} {time : String} {d d' : Disk}

theorem Disk.load_kept {α : Type} (decode : Json.Value → Option α) (p : Path) (time : String)
    (d : Disk) : Kept d (Disk.load decode p time d).2 p :=
  Loads.regular.kept

theorem Settings.load_snd (p : Path) (time : String) (d : Disk) :
    (Settings.load p time d).2 = (Disk.load ofJson? p time d).2 := by
  rw [Settings.load]
  split <;> next read => rw [read]

namespace Host.Store

/-- The book for what was read. Nothing counts as the empty one, and a newer version is refused. -/
def judge : Except StorageError (Option Book) → Except StorageError Book
  | .error e => .error e
  | .ok none => .ok .empty
  | .ok (some b) => (Settings.checkVersion b.version).map fun _ => b

theorem load_eq (p : Path) (time : String) (d : Disk) : load p time d =
    (judge (Disk.load Book.ofJson? p time d).1, (Disk.load Book.ofJson? p time d).2) := by
  rw [load]
  split <;> next read => rw [read]; rfl

theorem upsert_of_load {b : Book} (read : (load p time d).1 = .ok b) (s : Stored) :
    upsert p time s d = Disk.save (b.upsert s).toJson p (load p time d).2 := by
  rw [upsert]
  split
  · next failed => simp [failed] at read
  · next loaded =>
    rw [loaded] at read ⊢
    cases read
    rfl

theorem upsert_of_load_error {e : StorageError} (read : (load p time d).1 = .error e) (s : Stored) :
    upsert p time s d = (.error e, (load p time d).2) := by
  rw [upsert]
  split
  · next failed =>
    rw [failed] at read ⊢
    cases read
    rfl
  · next loaded => simp [loaded] at read

/-- How storing a host may come out, on a system that may fail: it ends while the file is read, or
while it is replaced. -/
inductive Upserts (p : Path) (time : String) (s : Stored) (d : Disk) : Ending → Disk → Prop
  | unread {r : Except StorageError (Option Book)} {d' : Disk} :
    Loads Book.ofJson? p time d r d' → Upserts p time s d .cut d'
  | read {r : Except StorageError (Option Book)} {b : Book} {d₁ d' : Disk} {ending : Ending} :
    Loads Book.ofJson? p time d r d₁ → judge r = .ok b →
    Takes d₁ (saveSteps p (saveBytes (b.upsert s).toJson)) ending d' → Upserts p time s d ending d'

theorem upserts_upsert (p : Path) (time : String) (s : Stored) (d : Disk) :
    Upserts p time s d (.of (upsert p time s d).1.isOk) (upsert p time s d).2 := by
  rw [upsert, load_eq]
  cases judged : judge (Disk.load Book.ofJson? p time d).1 with
  | error e => exact .unread .regular
  | ok b => exact .read .regular judged (takes_save _ p _)

/-- The file at the path holds a book that the host was stored in, or is the old one. Nothing is said
of a torn one. -/
def Shelved (p : Path) (time : String) (s : Stored) (d d' : Disk) : Ending → Prop
  | .done => ∃ b, (load p time d).1 = .ok b ∧ Replaced d d' p (saveBytes (b.upsert s).toJson)
  | .cut => Kept d d' p
  | .torn => True

theorem Upserts.shelved {s : Stored} {ending : Ending} (h : Upserts p time s d ending d') :
    Shelved p time s d d' ending := by
  cases h with
  | unread loaded => exact loaded.kept
  | @read r b d₁ _ _ loaded judged taken =>
    have settled := taken.settled (loaded.spares (avoids_backupPath p time))
    cases ending with
    | torn => trivial
    | cut => exact settled
    | done =>
      refine ⟨b, ?_, settled⟩
      cases r with
      | error e => cases judged
      | ok a => rw [load_eq, loaded.result rfl, judged]

theorem hosts_snd (p : Path) (time : String) (only : Bool) (d : Disk) :
    (hosts p time only d).2 = (Disk.load Book.ofJson? p time d).2 := by
  rw [hosts, load_eq]

theorem rules_snd (p : Path) (time nickname : String) (d : Disk) :
    (rules p time nickname d).2 = (Disk.load Book.ofJson? p time d).2 := by
  rw [rules, load_eq]

/-- Saving settings and storing a host are all or nothing, wherever they fail or stop, and reading
keeps the file. -/
theorem saving_all_or_nothing (p : Path) (time : String) (d : Disk) :
    (∀ s : Settings,
      (∀ ending d', Takes d (saveSteps p (saveBytes s.toJson)) ending d' →
        Settled d d' p (saveBytes s.toJson) ending) ∧
      Settled d (s.save p d).2 p (saveBytes s.toJson) (.of (s.save p d).1.isOk)) ∧
    (∀ s : Stored,
      (∀ ending d', Upserts p time s d ending d' → Shelved p time s d d' ending) ∧
      Shelved p time s d (upsert p time s d).2 (.of (upsert p time s d).1.isOk)) ∧
    (∀ r d', Loads Settings.ofJson? p time d r d' → Kept d d' p) ∧
    (∀ r d', Loads Book.ofJson? p time d r d' → Kept d d' p) ∧
    Kept d (Settings.load p time d).2 p ∧
    (∀ only, Kept d (hosts p time only d).2 p) ∧
    ∀ nickname, Kept d (rules p time nickname d).2 p := by
  refine ⟨fun s => ⟨fun ending d' taken => taken.settled (.refl _ d),
      (takes_save s.toJson p d).settled (.refl _ d)⟩,
    fun s => ⟨fun ending d' stored => stored.shelved, (upserts_upsert p time s d).shelved⟩,
    fun r d' loaded => loaded.kept, fun r d' loaded => loaded.kept, ?_, fun only => ?_,
    fun nickname => ?_⟩
  · rw [Settings.load_snd]
    exact load_kept Settings.ofJson? p time d
  · rw [hosts_snd]
    exact load_kept Book.ofJson? p time d
  · rw [rules_snd]
    exact load_kept Book.ofJson? p time d

/-- The new text breaks off after its first byte; then reading is refused. -/
theorem saving_all_or_nothing_cut :
    let d := Disk.empty.put ["hosts.json"] (.file [1, 2])
    let path := ["hosts.json"]
    let settings : Settings := {}
    let host : Stored := ⟨⟨"box", "ssh", "alice", "10.0.0.5", 22, "", "", 0⟩, []⟩
    (∃ d', Takes d (saveSteps path (saveBytes settings.toJson)) .cut d' ∧
      Settled d d' path (saveBytes settings.toJson) .cut) ∧
    (∃ d', Upserts path "" host Disk.empty .cut d' ∧
      Shelved path "" host Disk.empty d' .cut) ∧
    Loads Book.ofJson? path "" d (.error (.io .busy)) d ∧ Kept d d path := by
  intro d path settings host
  have taken : ∃ d', Takes d (saveSteps path (saveBytes settings.toJson)) .cut d' :=
    ⟨_, .next (by rfl) (.next (by rfl) (.cut (.part 1 (by rfl))))⟩
  have stored : ∃ d', Upserts path "" host Disk.empty .cut d' :=
    ⟨_, .read .regular (by rfl) (.next (by rfl) (.next (by rfl) (.cut (.part 1 (by rfl)))))⟩
  have refused : Loads Book.ofJson? path "" d (.error (.io .busy)) d := .failed .busy
  obtain ⟨d₁, taken⟩ := taken
  obtain ⟨d₂, stored⟩ := stored
  exact ⟨⟨d₁, taken, ((saving_all_or_nothing path "" d).1 settings).1 _ _ taken⟩,
    ⟨d₂, stored, ((saving_all_or_nothing path "" Disk.empty).2.1 host).1 _ _ stored⟩,
    refused, (saving_all_or_nothing path "" d).2.2.2.1 _ _ refused⟩

def barred : Disk :=
  (Disk.empty.put ["hosts.json"] (.file [])).put ["hosts.json.tmp"] .directory

/-- Storing a host fails, and the path that led nowhere, for want of a directory, leads to a file. Every
step of a save is taken, and yet a part of the text is lost. -/
theorem saving_leaves_other_bytes :
    let path := ["a", "..", "hosts.json"]
    let host : Stored := ⟨⟨"box", "ssh", "alice", "10.0.0.5", 22, "", "", 0⟩, []⟩
    (barred.read path = .error .notFound ∧
      (upsert path "" host barred).1 = .error (.io .isDirectory) ∧
      (upsert path "" host barred).2.read path = .ok []) ∧
    ∃ d', Takes Disk.empty (saveSteps ["hosts.json"] [1, 2]) .torn d' ∧
      d'.read ["hosts.json"] = .ok [1] := by
  refine ⟨⟨by rfl, by rfl, by rfl⟩, ?_⟩
  refine ⟨_, .next (by rfl) (.next (by rfl) (.loses 1 (by rfl) (.next (by rfl) (.next (by rfl)
    (.done _))) rfl)), by rfl⟩

end Host.Store
end BridgeKeeper
