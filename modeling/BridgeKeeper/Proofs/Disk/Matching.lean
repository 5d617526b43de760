import BridgeKeeper.Proofs.Disk.Saving

/-!
# Disks that match at a path

Two disks match at a path if the path leads to a place on them, they have the same directories, and
the same files at that place and at the one where the new text is gathered. What is read at the path
and how the steps of replacing the file come out is then the same on both, and they match afterwards.
Backups leave a disk matching.
-/
namespace BridgeKeeper.Disk

variable {x y z y' z' : Disk} {p : Path} {q : Place} {content : Bytes} {time : String}

theorem fileAt_put (free : x.at? q ≠ some .directory) (a : Place) :
    (x.put q (.file content)).fileAt a = if a = q then some content else x.fileAt a := by
  split
  · next same => rw [same, fileAt_put_same free]
  · next other => rw [fileAt_put_other other]

theorem fileAt_drop (free : x.at? q ≠ some .directory) (a : Place) :
    (x.drop q).fileAt a = if a = q then none else x.fileAt a := by
  split
  · next same => rw [same, fileAt, at?_drop_same (not_isOuter free)]
  · next other => rw [fileAt_drop_other other]

/-- The same directories, and the same files where the file at the path is and is gathered. -/
structure Matches (p : Path) (y z : Disk) : Prop where
  directories : SameDirectories y z
  leads : ∃ q, y.place? p = some q
  fileAt {a : Place} : y.place? p = some a ∨ y.place? (temporaryPath p) = some a →
    y.fileAt a = z.fileAt a

namespace Matches

theorem symm (h : Matches p y z) : Matches p z y := by
  obtain ⟨q, place⟩ := h.leads
  refine ⟨h.directories.symm, ⟨q, (h.directories.place? p).trans place⟩, fun there => ?_⟩
  rw [h.directories.place?, h.directories.place?] at there
  exact (h.fileAt there).symm

theorem trans (h : Matches p x y) (h' : Matches p y z) : Matches p x z := by
  refine ⟨h.directories.trans h'.directories, h.leads, fun there => ?_⟩
  refine (h.fileAt there).trans (h'.fileAt ?_)
  rwa [h.directories.place?, h.directories.place?]

/-- What is at the path is the same on both. -/
theorem at?_eq (h : Matches p y z) (place : y.place? p = some q) : y.at? q = z.at? q := by
  have files := h.fileAt (Or.inl place)
  have directory := h.directories.at?_iff q
  simp only [Disk.fileAt] at files
  rcases here : y.at? q with _ | _ | _ <;> rcases there : z.at? q with _ | _ | _ <;> simp_all

end Matches

/-- Reading a path gives what is at its place. -/
theorem read_of_place? (place : y.place? p = some q) : y.read p =
    match y.at? q with
    | some (.file c) => .ok c
    | some .directory => .error .isDirectory
    | none => .error .notFound := by
  rw [place?] at place
  rw [read, look]
  split at place
  · next dir name located =>
    split at place
    · cases place
    · next fits =>
      cases place
      rw [located]
      rcases there : y.at? (dir ++ [name]) with _ | _ | _ <;>
        simp [bind, Except.bind, pure, Except.pure, child, fits, there]
  · cases place

namespace Matches

theorem read (h : Matches p y z) : y.read p = z.read p := by
  obtain ⟨q, place⟩ := h.leads
  rw [read_of_place? place, read_of_place? ((h.directories.place? p).trans place), h.at?_eq place]

/-! ## Steps on both disks -/

/-- Files changed alike, where the directories stay, leave a match. -/
theorem change (h : Matches p y z) (same : SameDirectories y y') (same' : SameDirectories z z')
    (files : ∀ a, y.fileAt a = z.fileAt a → y'.fileAt a = z'.fileAt a) : Matches p y' z' := by
  obtain ⟨q, place⟩ := h.leads
  refine ⟨same.symm.trans (h.directories.trans same'), ⟨q, (same.place? p).trans place⟩, ?_⟩
  intro a there
  rw [same.place?, same.place?] at there
  exact files a (h.fileAt there)

theorem write (h : Matches p y z) {r : Path} (written : y.write r content = .ok y') :
    ∃ z', z.write r content = .ok z' ∧ Matches p y' z' := by
  obtain ⟨a, place, free, rfl⟩ := write_eq_ok_iff.mp written
  have free' : z.at? a ≠ some .directory := fun there => free ((h.directories.at?_iff a).mp there)
  refine ⟨z.put a (.file content),
    write_eq_ok_iff.mpr ⟨a, (h.directories.place? r).trans place, free', rfl⟩,
    h.change (sameDirectories_put free) (sameDirectories_put free') fun b same => ?_⟩
  rw [fileAt_put free, fileAt_put free', same]

theorem rename (h : Matches p y z) (renamed : y.rename (temporaryPath p) p = .ok y') :
    ∃ z', z.rename (temporaryPath p) p = .ok z' ∧ Matches p y' z' := by
  obtain ⟨a, b, c, from_, onto, there, free, rfl⟩ := rename_eq_ok_iff.mp renamed
  have gathered : z.fileAt a = some c := (h.fileAt (Or.inr from_)).symm.trans there
  have file : y.at? a ≠ some .directory := by simp [fileAt_eq_some_iff.mp there]
  have file' : z.at? a ≠ some .directory := by simp [fileAt_eq_some_iff.mp gathered]
  have free' : z.at? b ≠ some .directory := fun there => free ((h.directories.at?_iff b).mp there)
  have dropped := sameDirectories_drop file
  have dropped' := sameDirectories_drop file'
  have open_ : (y.drop a).at? b ≠ some .directory := fun h => free ((dropped.at?_iff b).mp h)
  have open_' : (z.drop a).at? b ≠ some .directory := fun h => free' ((dropped'.at?_iff b).mp h)
  refine ⟨_, rename_eq_ok_iff.mpr ⟨a, b, c, (h.directories.place? _).trans from_,
    (h.directories.place? _).trans onto, gathered, free', rfl⟩,
    h.change (dropped.trans (sameDirectories_put open_))
      (dropped'.trans (sameDirectories_put open_')) fun x same => ?_⟩
  rw [fileAt_put open_, fileAt_put open_', fileAt_drop file, fileAt_drop file', same]

/-- An operation that goes the same way on both disks keeps them matching. -/
theorem after (h : Matches p y z) {r r' : Except IoError Disk}
    (there : ∀ y', r = .ok y' → ∃ z', r' = .ok z' ∧ Matches p y' z')
    (back : ∀ z', r' = .ok z' → ∃ y', r = .ok y' ∧ Matches p z' y') :
    (y.after r).1.isOk = (z.after r').1.isOk ∧ Matches p (y.after r).2 (z.after r').2 := by
  cases r with
  | ok y' =>
    obtain ⟨z', rfl, both⟩ := there y' rfl
    exact ⟨rfl, both⟩
  | error e =>
    cases r' with
    | ok z' =>
      obtain ⟨y', impossible, -⟩ := back z' rfl
      cases impossible
    | error e' => exact ⟨rfl, h⟩

theorem apply (h : Matches p y z) {s : SaveStep} (mem : s ∈ saveSteps p content) :
    (s.apply y).1.isOk = (s.apply z).1.isOk ∧ Matches p (s.apply y).2 (s.apply z).2 := by
  simp only [saveSteps, List.mem_cons, List.not_mem_nil, or_false] at mem
  rcases mem with rfl | rfl | rfl | rfl | rfl <;> rw [SaveStep.apply, SaveStep.apply]
  · obtain ⟨q, place⟩ := h.leads
    have place' := (h.directories.place? p).trans place
    rw [makeDirectories_of_reaches (reaches_parent place),
      makeDirectories_of_reaches (reaches_parent place')]
    exact ⟨rfl, h⟩
  · exact h.after (fun _ => h.write) (fun _ => h.symm.write)
  · exact h.after (fun _ => h.write) (fun _ => h.symm.write)
  · exact ⟨rfl, h⟩
  · exact h.after (fun _ => h.rename) (fun _ => h.symm.rename)

end Matches

/-! ## Backups -/

/-- A backup leaves a disk matching. -/
theorem matches_backUp (place : y.place? p = some q) (time : String) :
    Matches p y (y.backUp p time) := by
  refine ⟨backUp_sameDirectories y p time, ⟨q, place⟩, fun {a} there => ?_⟩
  rcases there with there | there
  · obtain ⟨_, last, last', -, -⟩ := getLast?_of_place? there
    exact ((backUp_spares (avoids_backupPath p time)).fileAt (last.trans last'.symm)).symm
  · obtain ⟨_, last, last', -, -⟩ := getLast?_of_place? there
    have other := avoids_otherExtension place (tmp_ne_backup time).symm
    exact ((backUp_spares other).fileAt (last.trans last'.symm)).symm

/-! ## Equal or matching -/

/-- The same disk, or two that match. -/
def Alike (p : Path) (y z : Disk) : Prop := y = z ∨ Matches p y z

namespace Alike

theorem refl (p : Path) (y : Disk) : Alike p y y := Or.inl rfl

theorem symm (h : Alike p y z) : Alike p z y := by
  rcases h with rfl | h
  · exact .refl p y
  · exact Or.inr h.symm

theorem trans (h : Alike p x y) (h' : Alike p y z) : Alike p x z := by
  rcases h with rfl | h
  · exact h'
  · rcases h' with rfl | h'
    · exact Or.inr h
    · exact Or.inr (h.trans h')

theorem read (h : Alike p y z) : y.read p = z.read p := by
  rcases h with rfl | h
  · rfl
  · exact h.read

theorem readText (h : Alike p y z) : y.readText p = z.readText p := by
  rw [Disk.readText, Disk.readText, h.read]

theorem apply (h : Alike p y z) {s : SaveStep} (mem : s ∈ saveSteps p content) :
    (s.apply y).1.isOk = (s.apply z).1.isOk ∧ Alike p (s.apply y).2 (s.apply z).2 := by
  rcases h with rfl | h
  · exact ⟨rfl, .refl p _⟩
  · have ⟨same, both⟩ := h.apply mem
    exact ⟨same, Or.inr both⟩

end Alike

theorem alike_load {α : Type} (decode : Json.Value → Option α) (p : Path) (time : String)
    (y : Disk) : Alike p y (load decode p time y).2 := by
  rcases load_snd decode p time y with ⟨⟨text, there, -⟩, backed⟩ | ⟨-, same⟩
  · obtain ⟨c, read, -⟩ := readText_eq_ok_iff.mp there
    obtain ⟨q, place, -⟩ := read_eq_ok_iff.mp read
    rw [backed]
    exact Or.inr (matches_backUp place time)
  · exact Or.inl same.symm

end BridgeKeeper.Disk
