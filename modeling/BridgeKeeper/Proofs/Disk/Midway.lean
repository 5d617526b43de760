import BridgeKeeper.Proofs.Disk.Matching
import BridgeKeeper.Proofs.Disk.Savable

/-!
# What is read while a file is replaced

Between the steps of replacing a file it reads as before. The one exception is a file that reading fails
to find, because the path goes through a directory that is missing and up again: once that is made the
file is found.
-/
namespace BridgeKeeper.Disk

variable {d y z : Disk} {p : Path} {q : Place} {name : String} {content : Bytes}
  {taken rest : List SaveStep}

theorem runSteps_append (d : Disk) (taken rest : List SaveStep) :
    d.runSteps (taken ++ rest) =
      match d.runSteps taken with
      | (.ok (), d₁) => d₁.runSteps rest
      | failed => failed := by
  induction taken generalizing d with
  | nil => rfl
  | cons s taken ih =>
    rw [List.cons_append, runSteps, runSteps]
    split
    · exact ih _
    · rfl

/-- The steps may stop where some are left. -/
theorem takes_of_runSteps (took : d.runSteps taken = (.ok (), z)) (left : rest ≠ []) :
    Takes d (taken ++ rest) .cut z := by
  induction taken generalizing d with
  | nil =>
    cases took
    obtain ⟨s, rest, rfl⟩ := List.exists_cons_of_ne_nil left
    exact .cut (.untouched s)
  | cons s taken ih =>
    obtain ⟨d₁, applied, took⟩ := runSteps_cons_eq_ok_iff.mp took
    exact .next applied (ih took)

/-- Files that are the same read the same. -/
theorem readText_eq_of_fileAt (place : y.place? p = some q) (place' : z.place? p = some q)
    (free : y.at? q ≠ some .directory) (free' : z.at? q ≠ some .directory)
    (files : y.fileAt q = z.fileAt q) : y.readText p = z.readText p := by
  rw [readText, readText, read_of_place? place, read_of_place? place']
  simp only [fileAt] at files
  rcases here : y.at? q with _ | _ | _ <;> rcases there : z.at? q with _ | _ | _ <;> simp_all

theorem readText_of_no_file (place : y.place? p = some q) (free : y.at? q ≠ some .directory)
    (none : y.fileAt q = none) : y.readText p = .error .notFound := by
  rw [readText, read_of_place? place]
  simp only [fileAt] at none
  rcases here : y.at? q with _ | c | _
  · rfl
  · rw [here] at none
    cases none
  · exact absurd here free

/-- Reading fails to find a file that is there: it is found once the directories of the path are made. -/
def Hidden (p : Path) (d : Disk) : Prop :=
  d.read p = .error .notFound ∧ ∃ c, (d.makeDirectories p.parent).2.read p = .ok c

theorem Hidden.place? (h : Hidden p d) : d.place? p = none := by
  obtain ⟨missed, c, there⟩ := h
  cases place : d.place? p with
  | none => rfl
  | some q =>
    rw [makeDirectories_of_reaches (reaches_parent place)] at there
    cases missed.symm.trans there

/-- Midway through steps that will succeed the file reads as at first, if it was not hidden. -/
theorem readText_midway (split : taken ++ rest = saveSteps p content) (left : rest ≠ [])
    (took : y.runSteps taken = (.ok (), z))
    (succeeds : ∃ d, y.runSteps (saveSteps p content) = (.ok (), d))
    (missing : y.place? p = none → y.readText p = .error .notFound) (found : ¬ Hidden p y) :
    z.readText p = y.readText p := by
  have stopped := takes_of_runSteps took left
  rw [split] at stopped
  have kept : Kept y z p := stopped.settled (.refl _ y)
  rcases taken with _ | ⟨s, taken⟩
  · cases took
    rfl
  rw [saveSteps_eq, List.cons_append, List.cons.injEq] at split
  obtain ⟨rfl, split⟩ := split
  obtain ⟨y₁, made, took⟩ := runSteps_cons_eq_ok_iff.mp took
  obtain ⟨d', succeeds⟩ := succeeds
  obtain ⟨y₂, made', succeeds⟩ := runSteps_cons_eq_ok_iff.mp succeeds
  rw [made, Prod.mk.injEq] at made'
  obtain ⟨-, rfl⟩ := made'
  have made : y.makeDirectories p.parent = (.ok (), y₁) := made
  -- Once the directories are made the path leads to one place, where no directory is.
  obtain ⟨-, q, place₁, free₁⟩ := runSteps_fileSteps_iff.mp ⟨d', succeeds⟩
  have onFiles : ∀ s ∈ taken, s ∈ fileSteps p content := by
    intro s h
    rw [← split]
    exact List.mem_append_left _ h
  have same := runSteps_sameDirectories onFiles y₁
  rw [took] at same
  have place : z.place? p = some q := (same.place? p).trans place₁
  have free : z.at? q ≠ some .directory := fun there => free₁ ((same.at?_iff q).mp there)
  have files : z.fileAt q = y.fileAt q := kept.holds place
  cases before : y.place? p with
  | some q' =>
    have known := makeDirectories_of_reaches (reaches_parent before)
    rw [made, Prod.mk.injEq] at known
    obtain ⟨-, rfl⟩ := known
    exact readText_eq_of_fileAt place place₁ free free₁ files
  | none =>
    cases file : y.fileAt q with
    | none =>
      rw [missing before]
      exact readText_of_no_file place free (files.trans file)
    | some c =>
      have adds := makeDirectories_adds y p.parent
      rw [made] at adds
      have there : y₁.read p = .ok c :=
        read_eq_ok_iff.mpr ⟨q, place₁, (adds.fileAt q).trans file⟩
      have missed := readText_eq_notFound_iff.mp (missing before)
      exact absurd ⟨missed, c, by rw [made]; exact there⟩ found

end BridgeKeeper.Disk
