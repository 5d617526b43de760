import BridgeKeeper.Proofs.Disk.Replacing
import BridgeKeeper.Proofs.Text.Utf8

/-!
# Reading a file

What is read depends on the text at the path alone. Reading changes nothing on the disk but the
backup beside a text that does not decode, so it never changes a file of the name that it reads.
-/
namespace BridgeKeeper.Disk

variable {α : Type} {decode : Json.Value → Option α} {d d' : Disk} {p : Path} {time text : String}
  {n : Option String} {content : Bytes}

def judged (decode : Json.Value → Option α) :
    Except IoError String → Except StorageError (Option α)
  | .error .notFound => .ok none
  | .error e => .error (.io e)
  | .ok text => .ok (Json.ofText? text >>= decode)

theorem judged_error {e : IoError} (other : e ≠ .notFound) (decode : Json.Value → Option α) :
    judged decode (.error e) = .error (.io e) := by
  cases e <;> first | rfl | exact absurd rfl other

theorem load_fst (decode : Json.Value → Option α) (p : Path) (time : String) (d : Disk) :
    (load decode p time d).1 = judged decode (d.readText p) := by
  rw [load]
  split
  · next missing => rw [missing]; rfl
  · next e other failed =>
    rw [failed, judged]
    exact fun missing => other missing
  · next text there =>
    rw [there, judged]
    split
    · next decoded => rw [decoded]
    · next undecoded => rw [undecoded]

/-- A path leads to a text that stands for nothing. -/
def Undecoded (decode : Json.Value → Option α) (d : Disk) (p : Path) : Prop :=
  ∃ text, d.readText p = .ok text ∧ Json.ofText? text >>= decode = none

theorem load_snd (decode : Json.Value → Option α) (p : Path) (time : String) (d : Disk) :
    Undecoded decode d p ∧ (load decode p time d).2 = d.backUp p time ∨
      ¬ Undecoded decode d p ∧ (load decode p time d).2 = d := by
  rw [load]
  split
  · next missing => exact Or.inr ⟨by rintro ⟨_, there, -⟩; simp [missing] at there, rfl⟩
  · next failed => exact Or.inr ⟨by rintro ⟨_, there, -⟩; simp [failed] at there, rfl⟩
  · next text there =>
    split
    · next decoded =>
      refine Or.inr ⟨?_, rfl⟩
      rintro ⟨_, same, undecoded⟩
      rw [there, Except.ok.injEq] at same
      rw [← same, decoded] at undecoded
      cases undecoded
    · next undecoded => exact Or.inl ⟨⟨text, there, undecoded⟩, rfl⟩

/-! ## Texts -/

theorem readText_eq_ok_iff : d.readText p = .ok text ↔
    ∃ c, d.read p = .ok c ∧ (Text.Utf8.decode? c).map String.ofList = some text := by
  rw [readText]
  cases d.read p with
  | error e => simp [bind, Except.bind]
  | ok c => cases h : Text.Utf8.decode? c <;> simp [bind, Except.bind, h]

theorem readText_eq_notFound_iff : d.readText p = .error .notFound ↔ d.read p = .error .notFound := by
  rw [readText]
  cases d.read p with
  | error e => simp [bind, Except.bind]
  | ok c => cases h : Text.Utf8.decode? c <;> simp [bind, Except.bind, h]

/-- The bytes that are saved for a value are its text. -/
theorem readText_of_saved {v : Json.Value} (h : d.read p = .ok (saveBytes v)) :
    d.readText p = .ok v.pretty := by
  refine readText_eq_ok_iff.mpr ⟨_, h, ?_⟩
  rw [saveBytes, Text.Utf8.decode?_encode, Option.map_some, String.ofList_toList]

/-! ## Backups -/

theorem avoids_backupPath (p : Path) (time : String) : Avoids p.getLast? (backupPath p time) :=
  avoids_withExtension (by simp)

theorem tmp_ne_backup (time : String) : "json.tmp" ≠ "json.backup." ++ time := by
  intro same
  have := congrArg String.toList same
  simp at this

theorem backUp_cases (d : Disk) (p : Path) (time : String) :
    d.backUp p time = d ∨
      ∃ c, d.read p = .ok c ∧ d.write (backupPath p time) c = .ok (d.backUp p time) := by
  rw [backUp, copy]
  cases there : d.read p with
  | error e => exact Or.inl rfl
  | ok c =>
    cases written : d.write (backupPath p time) c with
    | error e => exact Or.inl (by simp [bind, Except.bind, written])
    | ok d' => exact Or.inr ⟨c, rfl, by simp [bind, Except.bind, written]⟩

theorem backUp_spares (avoids : Avoids n (backupPath p time)) : Spares n d (d.backUp p time) := by
  rcases backUp_cases d p time with same | ⟨c, -, written⟩
  · rw [same]
    exact .refl n d
  · exact write_spares written avoids

theorem load_spares (decode : Json.Value → Option α) (d : Disk)
    (avoids : Avoids n (backupPath p time)) : Spares n d (load decode p time d).2 := by
  rcases load_snd decode p time d with ⟨-, same⟩ | ⟨-, same⟩ <;> rw [same]
  · exact backUp_spares avoids
  · exact .refl n d

/-! ## What can go wrong -/

/-- How reading a file may come out, on a system that may fail. An error may stand in for the text at
the path, and a backup may be left out or break off at any length. -/
inductive Loads (decode : Json.Value → Option α) (p : Path) (time : String) (d : Disk) :
    Except StorageError (Option α) → Disk → Prop
  | regular : Loads decode p time d (load decode p time d).1 (load decode p time d).2
  | failed (e : IoError) : Loads decode p time d (.error (.io e)) d
  | uncopied : Undecoded decode d p → Loads decode p time d (.ok none) d
  | broken {content : Bytes} {d' : Disk} (k : Nat) : Undecoded decode d p →
    d.read p = .ok content → d.write (backupPath p time) (content.take k) = .ok d' →
    Loads decode p time d (.ok none) d'

namespace Loads

variable {r : Except StorageError (Option α)}

/-- What was read, where something was, is what stands on the disk. -/
theorem result (h : Loads decode p time d r d') {a : Option α} (read : r = .ok a) :
    (load decode p time d).1 = .ok a := by
  have nothing : Undecoded decode d p → (load decode p time d).1 = .ok none := by
    rintro ⟨text, there, undecoded⟩
    rw [load_fst, there, judged, undecoded]
  cases h with
  | regular => exact read
  | failed e => cases read
  | uncopied undecoded => rw [nothing undecoded, ← read]
  | broken k undecoded => rw [nothing undecoded, ← read]

theorem spares (h : Loads decode p time d r d') (avoids : Avoids n (backupPath p time)) :
    Spares n d d' := by
  cases h with
  | regular => exact load_spares decode d avoids
  | failed e => exact .refl n d
  | uncopied => exact .refl n d
  | broken k _ _ written => exact write_spares written avoids

theorem kept (h : Loads decode p time d r d') : Kept d d' p :=
  (h.spares (avoids_backupPath p time)).kept

end Loads
end BridgeKeeper.Disk
