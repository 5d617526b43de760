import BridgeKeeper.Proofs.Disk.Loading
import BridgeKeeper.Proofs.Outcome

/-!
# When a file can be replaced

Once the directories of a path are there, whether the file can be replaced depends on the directories
alone: a file may be put at the path and at the one beside it. So what cannot be replaced then never
can, as the other steps and the backups leave the directories as they are.
-/
namespace BridgeKeeper.Disk

variable {d d' : Disk} {p : Path} {time : String} {content : Bytes}

def Writable (d : Disk) (p : Path) : Prop := ∃ q, d.place? p = some q ∧ d.at? q ≠ some .directory

theorem SameDirectories.writable_iff (h : SameDirectories d d') (p : Path) :
    Writable d' p ↔ Writable d p := by
  constructor
  · rintro ⟨q, place, free⟩
    exact ⟨q, (h.place? p).symm.trans place, fun there => free ((h.at?_iff q).mpr there)⟩
  · rintro ⟨q, place, free⟩
    exact ⟨q, (h.place? p).trans place, fun there => free ((h.at?_iff q).mp there)⟩

theorem exists_write_iff : (∃ d', d.write p content = .ok d') ↔ Writable d p := by
  constructor
  · rintro ⟨d', written⟩
    obtain ⟨q, place, free, -⟩ := write_eq_ok_iff.mp written
    exact ⟨q, place, free⟩
  · rintro ⟨q, place, free⟩
    exact ⟨_, write_eq_ok_iff.mpr ⟨q, place, free, rfl⟩⟩

theorem write_sameDirectories (h : d.write p content = .ok d') : SameDirectories d d' := by
  obtain ⟨q, -, free, rfl⟩ := write_eq_ok_iff.mp h
  exact sameDirectories_put free

theorem backUp_sameDirectories (d : Disk) (p : Path) (time : String) :
    SameDirectories d (d.backUp p time) := by
  rcases backUp_cases d p time with same | ⟨c, -, written⟩
  · rw [same]
    exact .refl d
  · exact write_sameDirectories written

theorem load_sameDirectories {α : Type} (decode : Json.Value → Option α) (p : Path) (time : String)
    (d : Disk) : SameDirectories d (load decode p time d).2 := by
  rcases load_snd decode p time d with ⟨-, same⟩ | ⟨-, same⟩ <;> rw [same]
  · exact backUp_sameDirectories d p time
  · exact .refl d

/-! ## The steps after the directories -/

def fileSteps (p : Path) (content : Bytes) : List SaveStep := [
  .create (temporaryPath p),
  .fill (temporaryPath p) content,
  .sync (temporaryPath p),
  .replace (temporaryPath p) p]

theorem saveSteps_eq (p : Path) (content : Bytes) :
    saveSteps p content = .makeDirectories p.parent :: fileSteps p content := rfl

/-- A step on files leaves the directories as they are. -/
theorem SaveStep.apply_sameDirectories {s : SaveStep} (onFiles : s ∈ fileSteps p content) (d : Disk) :
    SameDirectories d (s.apply d).2 := by
  simp only [fileSteps, List.mem_cons, List.not_mem_nil, or_false] at onFiles
  rcases onFiles with rfl | rfl | rfl | rfl <;> rw [apply]
  · cases written : d.write (temporaryPath p) [] with
    | ok d' => exact write_sameDirectories written
    | error e => exact .refl d
  · cases written : d.write (temporaryPath p) content with
    | ok d' => exact write_sameDirectories written
    | error e => exact .refl d
  · exact .refl d
  · cases renamed : d.rename (temporaryPath p) p with
    | ok d' =>
      obtain ⟨-, -, -, -, -, -, same, -, -⟩ := rename_cases renamed
      exact same
    | error e => exact .refl d

theorem runSteps_sameDirectories {steps : List SaveStep}
    (onFiles : ∀ s ∈ steps, s ∈ fileSteps p content) (d : Disk) :
    SameDirectories d (d.runSteps steps).2 := by
  induction steps generalizing d with
  | nil => exact .refl d
  | cons s rest ih =>
    have first := SaveStep.apply_sameDirectories (onFiles s List.mem_cons_self) d
    rw [runSteps]
    split
    · next applied =>
      rw [applied] at first
      exact first.trans (ih (fun s h => onFiles s (List.mem_cons_of_mem _ h)) _)
    · next applied =>
      rw [applied] at first
      exact first

/-- Both names that replacing a file needs are free for a file. -/
def Replaceable (d : Disk) (p : Path) : Prop := Writable d (temporaryPath p) ∧ Writable d p

theorem SameDirectories.replaceable_iff (h : SameDirectories d d') (p : Path) :
    Replaceable d' p ↔ Replaceable d p :=
  and_congr (h.writable_iff _) (h.writable_iff _)

theorem runSteps_fileSteps_iff :
    (∃ d', d.runSteps (fileSteps p content) = (.ok (), d')) ↔ Replaceable d p := by
  constructor
  · rintro ⟨d', done⟩
    simp only [fileSteps, runSteps_cons_eq_ok_iff, SaveStep.apply, after_eq_ok_iff] at done
    obtain ⟨d₁, created, d₂, filled, d₃, synced, d₄, renamed, -⟩ := done
    cases synced
    have same := (write_sameDirectories created).trans (write_sameDirectories filled)
    obtain ⟨a, b, c, -, onto, -, free, -⟩ := rename_eq_ok_iff.mp renamed
    exact ⟨exists_write_iff.mp ⟨d₁, created⟩, (same.writable_iff p).mp ⟨b, onto, free⟩⟩
  · rintro ⟨beside, ⟨q, place, free⟩⟩
    obtain ⟨d₁, created⟩ : ∃ d₁, d.write (temporaryPath p) [] = .ok d₁ :=
      exists_write_iff.mpr beside
    have same := write_sameDirectories created
    obtain ⟨t, place', free'⟩ := (same.writable_iff _).mpr beside
    let d₂ := d₁.put t (.file content)
    have filled : d₁.write (temporaryPath p) content = .ok d₂ :=
      write_eq_ok_iff.mpr ⟨t, place', free', rfl⟩
    have same' := write_sameDirectories filled
    have both := same.trans same'
    have renamed : d₂.rename (temporaryPath p) p =
        .ok ((d₂.drop t).put q (.file content)) := by
      refine rename_eq_ok_iff.mpr ⟨t, q, content, (same'.place? _).trans place',
        (both.place? p).trans place, fileAt_put_same free', ?_, rfl⟩
      exact fun there => free ((both.at?_iff q).mp there)
    refine ⟨(d₂.drop t).put q (.file content), ?_⟩
    simp only [fileSteps, runSteps_cons_eq_ok_iff, SaveStep.apply, after_eq_ok_iff]
    exact ⟨d₁, created, d₂, filled, d₂, rfl, _, renamed, rfl⟩

/-! ## Saving -/

theorem save_eq (v : Json.Value) (p : Path) (d : Disk) : save v p d =
    ((d.runSteps (saveSteps p (saveBytes v))).1.mapError .io,
      (d.runSteps (saveSteps p (saveBytes v))).2) := rfl

theorem save_error {v : Json.Value} {e : StorageError} (failed : (save v p d).1 = .error e) :
    ∃ e', e = .io e' := by
  rw [save_eq] at failed
  cases ran : (d.runSteps (saveSteps p (saveBytes v))).1 with
  | ok u =>
    rw [ran] at failed
    cases failed
  | error e' =>
    rw [ran] at failed
    cases failed
    exact ⟨e', rfl⟩

theorem save_eq_ok_iff {v : Json.Value} : save v p d = (.ok (), d') ↔
    d.runSteps (saveSteps p (saveBytes v)) = (.ok (), d') := by
  rw [save_eq, Prod.mk.injEq, mapError_eq_ok_iff, Prod.ext_iff]

/-- Where the directories are there, saving succeeds exactly if the file can be replaced, and leaves
the directories as they are. -/
theorem save_of_reaches (h : d.Reaches p.parent) (v : Json.Value) :
    ((save v p d).1 = .ok () ↔ Replaceable d p) ∧ SameDirectories d (save v p d).2 := by
  have taken : d.runSteps (saveSteps p (saveBytes v)) = d.runSteps (fileSteps p (saveBytes v)) := by
    rw [saveSteps_eq, runSteps, SaveStep.apply, makeDirectories_of_reaches h]
  rw [save_eq, taken, ← runSteps_fileSteps_iff]
  refine ⟨mapError_eq_ok_iff.trans ⟨fun done => ⟨_, Prod.ext done rfl⟩, ?_⟩,
    runSteps_sameDirectories (fun s hs => hs) d⟩
  rintro ⟨d', done⟩
  rw [done]

/-- Making the directories first changes nothing in how saving goes. -/
theorem save_of_made (made : (d.makeDirectories p.parent).1 = .ok ()) (v : Json.Value) :
    save v p d = save v p (d.makeDirectories p.parent).2 := by
  have there := makeDirectories_of_reaches ((makeDirectories_ok_iff d p).mp made)
  have first : d.makeDirectories p.parent = (.ok (), (d.makeDirectories p.parent).2) :=
    Prod.ext made rfl
  rw [save_eq, save_eq, saveSteps_eq, runSteps, runSteps, SaveStep.apply, SaveStep.apply, there,
    first]

theorem save_of_not_made (failed : (d.makeDirectories p.parent).1 ≠ .ok ()) (v : Json.Value) :
    (save v p d).1 ≠ .ok () ∧ (save v p d).2 = (d.makeDirectories p.parent).2 := by
  rw [save_eq, saveSteps_eq, runSteps, SaveStep.apply]
  rcases made : d.makeDirectories p.parent with ⟨e | _, d₁⟩
  · refine ⟨fun done => ?_, rfl⟩
    cases done
  · rw [made] at failed
    exact absurd rfl failed

/-- The file cannot be replaced, and that will not change while it is only read and replaced: reading
fails for another reason than that nothing is there, or the directories are in the way. -/
def Stuck (d : Disk) (p : Path) : Prop :=
  (∃ e, e ≠ .notFound ∧ d.readText p = .error e) ∨ d.Reaches p.parent ∧ ¬ Replaceable d p

/-- Saving that fails may be tried again while nothing is there to be read. -/
theorem stuck_of_save_failed {v : Json.Value} (failed : (save v p d).1 ≠ .ok ()) :
    (save v p d).2.readText p = .error .notFound ∨ Stuck (save v p d).2 p := by
  by_cases made : (d.makeDirectories p.parent).1 = .ok ()
  · have reaches := (makeDirectories_ok_iff d p).mp made
    have ⟨done, same⟩ := save_of_reaches reaches v
    rw [save_of_made made] at failed ⊢
    refine Or.inr (Or.inr ⟨reaches.keeps same.1, fun free => failed (done.mpr ?_)⟩)
    exact (same.replaceable_iff p).mp free
  · rw [(save_of_not_made made v).2]
    have nowhere := place?_of_makeDirectories_failed made
    cases read : (d.makeDirectories p.parent).2.readText p with
    | ok text =>
      obtain ⟨c, there, -⟩ := readText_eq_ok_iff.mp read
      obtain ⟨q, place, -⟩ := read_eq_ok_iff.mp there
      rw [nowhere] at place
      cases place
    | error e =>
      by_cases missing : e = .notFound
      · exact Or.inl (by rw [missing])
      · exact Or.inr (Or.inl ⟨e, missing, read⟩)

theorem Stuck.load {α : Type} (h : Stuck d p) (decode : Json.Value → Option α) (time : String) :
    Stuck (Disk.load decode p time d).2 p := by
  rcases h with ⟨e, other, failed⟩ | ⟨reaches, blocked⟩
  · have same : (Disk.load decode p time d).2 = d := by
      rcases load_snd decode p time d with ⟨⟨text, read, -⟩, -⟩ | ⟨-, same⟩
      · rw [failed] at read
        cases read
      · exact same
    rw [same]
    exact Or.inl ⟨e, other, failed⟩
  · have same := load_sameDirectories decode p time d
    exact Or.inr ⟨reaches.keeps same.1, fun free => blocked ((same.replaceable_iff p).mp free)⟩

end BridgeKeeper.Disk
