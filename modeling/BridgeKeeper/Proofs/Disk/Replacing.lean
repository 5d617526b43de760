import BridgeKeeper.Proofs.Disk.Directories

/-!
# Replacing a file

The steps that replace a file leave every other file as it is, apart from the one beside it in which
the new text is gathered, and the file itself changes in the last step alone. So whatever cuts the
steps short, and wherever, the path leads to the old text or to the whole new one. Only where a part of
the text is lost and no step fails for that, the rest of it takes the place of the file.
-/
namespace BridgeKeeper.Disk

variable {d d' d₁ d₂ d₃ : Disk} {p : Path} {q : Place} {n : Option String} {content : Bytes}

/-! ## What a change leaves alone -/

/-- Every path keeps leading where it leads, and no file of a name is changed. -/
structure Spares (n : Option String) (d d' : Disk) : Prop where
  keeps : KeepsDirectories d d'
  fileAt {q : Place} : q.getLast? = n → d'.fileAt q = d.fileAt q

theorem Spares.refl (n : Option String) (d : Disk) : Spares n d d := ⟨.refl d, fun _ => rfl⟩

theorem Spares.trans (h : Spares n d₁ d₂) (h' : Spares n d₂ d₃) : Spares n d₁ d₃ :=
  ⟨h.keeps.trans h'.keeps, fun hq => (h'.fileAt hq).trans (h.fileAt hq)⟩

theorem AddsDirectories.spares (h : AddsDirectories d d') : Spares n d d' :=
  ⟨h.keeps, fun _ => h.fileAt _⟩

theorem fileAt_put_other {x : Place} {node : Node} (h : x ≠ q) :
    (d.put q node).fileAt x = d.fileAt x := by
  rw [fileAt, fileAt, at?_put_other _ h]

theorem fileAt_put_same (h : d.at? q ≠ some .directory) : (d.put q (.file content)).fileAt q =
    some content := by
  rw [fileAt, at?_put_same _ (not_isOuter h)]

theorem fileAt_drop_other {x : Place} (h : x ≠ q) : (d.drop q).fileAt x = d.fileAt x := by
  rw [fileAt, fileAt, at?_drop_other h]

def Avoids (n : Option String) (r : Path) : Prop :=
  ∀ (d : Disk) (q : Place), d.place? r = some q → q.getLast? ≠ n

theorem avoids_of_ne {r : Path} (h : r.getLast? ≠ n) : Avoids n r := by
  intro d q place
  obtain ⟨_, last, last', -, -⟩ := getLast?_of_place? place
  rwa [last, ← last']

theorem write_spares (h : d.write p content = .ok d') (avoids : Avoids n p) : Spares n d d' := by
  obtain ⟨q, place, free, rfl⟩ := write_eq_ok_iff.mp h
  refine ⟨(sameDirectories_put free).1, fun {x} hx => fileAt_put_other ?_⟩
  rintro rfl
  exact avoids d x place hx

/-- A renamed file stands at the place of its new path, and paths lead where they led. -/
theorem rename_cases {old new : Path} (h : d.rename old new = .ok d') :
    ∃ a b c, d.place? old = some a ∧ d.place? new = some b ∧ d.fileAt a = some c ∧
      SameDirectories d d' ∧ d'.fileAt b = some c ∧
      ∀ x, x ≠ a → x ≠ b → d'.fileAt x = d.fileAt x := by
  obtain ⟨a, b, c, from_, onto, there, free, rfl⟩ := rename_eq_ok_iff.mp h
  have file : d.at? a ≠ some .directory := by simp [fileAt_eq_some_iff.mp there]
  have dropped := sameDirectories_drop file
  have open_ : (d.drop a).at? b ≠ some .directory := fun h => free ((dropped.at?_iff b).mp h)
  refine ⟨a, b, c, from_, onto, there, dropped.trans (sameDirectories_put open_),
    fileAt_put_same open_, fun x ha hb => ?_⟩
  rw [fileAt_put_other hb, fileAt_drop_other ha]

theorem rename_spares {old new : Path} (h : d.rename old new = .ok d') (avoids : Avoids n old)
    (avoids' : Avoids n new) : Spares n d d' := by
  obtain ⟨a, b, c, from_, onto, -, same, -, rest⟩ := rename_cases h
  refine ⟨same.1, fun {x} hx => rest x ?_ ?_⟩
  · rintro rfl
    exact avoids d x from_ hx
  · rintro rfl
    exact avoids' d x onto hx

/-- What stands beside a file under its name with another extension has another name. -/
theorem avoids_withExtension {e : String} (dot : '.' ∈ e.toList) :
    Avoids p.getLast? (withExtension p e) := by
  intro d q h
  obtain ⟨name, last', last, plain, up⟩ := getLast?_of_place? h
  intro same
  rw [last'] at same
  have counts : Path.isIdle name = false := by
    have := List.mem_of_getLast? plain
    simpa using (List.mem_filter.mp this).2
  have own : p.plain.getLast? = some name := by
    obtain ⟨front, rfl⟩ := List.getLast?_eq_some_iff.mp same.symm
    simp [Path.plain, List.filter_append, counts]
  simp only [withExtension, own, up, if_false, List.getLast?_append, List.getLast?_singleton,
    Option.some_or, Option.some.injEq] at last
  exact nameWithExtension_ne dot last

/-- Other extensions give other names. -/
theorem avoids_otherExtension (place : d.place? p = some q) {e e' : String} (other : e' ≠ e) :
    Avoids (withExtension p e).getLast? (withExtension p e') := by
  obtain ⟨name, -, beside⟩ := getLast?_withExtension place
  refine avoids_of_ne fun same => ?_
  rw [beside, beside, Option.some.injEq] at same
  exact other (nameWithExtension_inj same)

theorem avoids_own (place : d.place? p = some q) {e : String} (dot : '.' ∈ e.toList) :
    Avoids (withExtension p e).getLast? p := by
  obtain ⟨name, last, beside⟩ := getLast?_withExtension place
  refine avoids_of_ne fun same => ?_
  rw [beside, last, Option.some.injEq] at same
  exact nameWithExtension_ne dot same.symm

/-- Reading a path gives the file at its place. -/
theorem read_eq_ok_iff_of_place? (h : d.place? p = some q) {c : Bytes} :
    d.read p = .ok c ↔ d.fileAt q = some c := by
  simp [read_eq_ok_iff, h]

/-! ## Taking the steps -/

/-- What a step may leave behind where an error or a stop cuts it short: nothing of it, some of the
directories, an empty file, or a part of the content. -/
inductive SaveStep.Leaves (d : Disk) : SaveStep → Disk → Prop
  | untouched (s : SaveStep) : Leaves d s d
  | refused {s : SaveStep} {e : IoError} {d' : Disk} : s.apply d = (.error e, d') → Leaves d s d'
  | directories {p q : Path} : q <+: p.plain →
    Leaves d (.makeDirectories p) (d.makeDirectories q).2
  | created {p : Path} {d' : Disk} : d.write p [] = .ok d' → Leaves d (.create p) d'
  | part {p : Path} {content : Bytes} {d' : Disk} (k : Nat) :
    d.write p (content.take k) = .ok d' → Leaves d (.fill p content) d'

/-- How taking steps ends: all are taken, an error or a stop cuts one of them short, or all are taken
and yet a part of the content was lost. -/
inductive Ending where
  | done
  | cut
  | torn

def Ending.of (ok : Bool) : Ending := if ok then .done else .cut

def Ending.lost : Ending → Ending
  | cut => cut
  | _ => torn

/-- How taking steps may come out; every disk in between is one where they are cut short. A write goes
through a buffer, and where the system fails to take the buffered bytes no step need tell of it. -/
inductive Takes : Disk → List SaveStep → Ending → Disk → Prop
  | done (d : Disk) : Takes d [] .done d
  | cut {d d' : Disk} {s : SaveStep} {rest : List SaveStep} :
    s.Leaves d d' → Takes d (s :: rest) .cut d'
  | next {d d₁ d' : Disk} {s : SaveStep} {rest : List SaveStep} {ending : Ending} :
    s.apply d = (.ok (), d₁) → Takes d₁ rest ending d' → Takes d (s :: rest) ending d'
  | loses {d d₁ d' : Disk} {p : Path} {content : Bytes} {rest : List SaveStep}
    {ending ending' : Ending} (k : Nat) : d.write p (content.take k) = .ok d₁ →
    Takes d₁ rest ending d' → ending' = ending.lost → Takes d (.fill p content :: rest) ending' d'

/-- Taking the steps in order is one way in which it may come out. -/
theorem takes_runSteps (d : Disk) (steps : List SaveStep) :
    Takes d steps (.of (d.runSteps steps).1.isOk) (d.runSteps steps).2 := by
  induction steps generalizing d with
  | nil => exact .done d
  | cons s rest ih =>
    rw [runSteps]
    split
    · next applied => exact .next applied (ih _)
    · next applied => exact .cut (.refused applied)

theorem runSteps_cons_eq_ok_iff {s : SaveStep} {rest : List SaveStep} :
    d.runSteps (s :: rest) = (.ok (), d') ↔
      ∃ d₁, s.apply d = (.ok (), d₁) ∧ d₁.runSteps rest = (.ok (), d') := by
  rw [runSteps]
  split
  · next d₁ applied => simp [applied]
  · next applied => simp [applied]

/-- Steps that are done are taken one and all. -/
theorem Takes.runSteps {steps : List SaveStep} (h : Takes d steps .done d') :
    d.runSteps steps = (.ok (), d') := by
  generalize ended : Ending.done = ending at h
  induction h with
  | done d => rfl
  | cut => cases ended
  | next applied _ ih => exact runSteps_cons_eq_ok_iff.mpr ⟨_, applied, ih ended⟩
  | @loses d d₁ d' p content rest ending ending' k written taken lost =>
    rw [← ended] at lost
    cases ending <;> cases lost

theorem takes_save (v : Json.Value) (p : Path) (d : Disk) :
    Takes d (saveSteps p (saveBytes v)) (.of (save v p d).1.isOk) (save v p d).2 := by
  have taken := takes_runSteps d (saveSteps p (saveBytes v))
  rw [save]
  generalize d.runSteps (saveSteps p (saveBytes v)) = out at taken
  obtain ⟨r | r, d'⟩ := out <;> exact taken

def SaveStep.touched : SaveStep → List Path
  | makeDirectories _ => []
  | create p => [p]
  | fill p _ => [p]
  | sync _ => []
  | replace temporary target => [temporary, target]

theorem after_write_spares (d : Disk) (p : Path) (content : Bytes) (avoids : Avoids n p) :
    Spares n d (d.after (d.write p content)).2 := by
  cases written : d.write p content with
  | ok d' => exact write_spares written avoids
  | error e => exact .refl n d

theorem SaveStep.apply_spares (d : Disk) (s : SaveStep) (avoids : ∀ p ∈ s.touched, Avoids n p) :
    Spares n d (s.apply d).2 := by
  cases s with
  | makeDirectories p => exact (makeDirectories_adds d p).spares
  | create p => exact after_write_spares d p [] (avoids p (by simp [touched]))
  | fill p content => exact after_write_spares d p content (avoids p (by simp [touched]))
  | sync p => exact .refl n d
  | replace temporary target =>
    rw [apply]
    cases renamed : d.rename temporary target with
    | ok d' =>
      exact rename_spares renamed (avoids _ (by simp [touched])) (avoids _ (by simp [touched]))
    | error e => exact .refl n d

theorem SaveStep.Leaves.spares {s : SaveStep} (h : s.Leaves d d')
    (avoids : ∀ p ∈ s.touched, Avoids n p) : Spares n d d' := by
  cases h with
  | untouched => exact .refl n d
  | refused failed =>
    have := s.apply_spares d avoids
    rwa [failed] at this
  | directories => exact (makeDirectories_adds d _).spares
  | created written => exact write_spares written (avoids _ (by simp [touched]))
  | part k written => exact write_spares written (avoids _ (by simp [touched]))

theorem Takes.spares {steps : List SaveStep} {ending : Ending} (h : Takes d steps ending d')
    (avoids : ∀ s ∈ steps, ∀ p ∈ s.touched, Avoids n p) : Spares n d d' := by
  induction h with
  | done d => exact .refl n d
  | cut left => exact left.spares (avoids _ List.mem_cons_self)
  | @next d d₁ d' s rest ending applied _ ih =>
    have first := s.apply_spares d (avoids s List.mem_cons_self)
    rw [applied] at first
    exact first.trans (ih fun s h => avoids s (List.mem_cons_of_mem _ h))
  | loses k written _ _ ih =>
    have first := write_spares written (avoids _ List.mem_cons_self _ (by simp [SaveStep.touched]))
    exact first.trans (ih fun s h => avoids s (List.mem_cons_of_mem _ h))

/-! ## The file at the path -/

/-- The path leads where it led, and the file there is the old one. -/
structure Kept (d d' : Disk) (p : Path) : Prop where
  leads {q : Place} : d.place? p = some q → d'.place? p = some q
  holds {q : Place} : d'.place? p = some q → d'.fileAt q = d.fileAt q

/-- The path leads where it led, and the file there is a new one. -/
structure Replaced (d d' : Disk) (p : Path) (new : Bytes) : Prop where
  leads {q : Place} : d.place? p = some q → d'.place? p = some q
  read : d'.read p = .ok new

/-- The file at a path is a new one where replacing it was done, and the old one where it was cut short.
Nothing is said of a torn one. -/
def Settled (d d' : Disk) (p : Path) (new : Bytes) : Ending → Prop
  | .done => Replaced d d' p new
  | .cut => Kept d d' p
  | .torn => True

theorem Spares.kept (h : Spares p.getLast? d d') : Kept d d' p := by
  refine ⟨h.keeps.place?, fun {q} place => ?_⟩
  obtain ⟨_, last, last', -, -⟩ := getLast?_of_place? place
  exact h.fileAt (last.trans last'.symm)

/-- A file that is kept reads as before. -/
theorem Kept.read (h : Kept d d' p) (before : d.read p = .ok content) : d'.read p = .ok content := by
  obtain ⟨q, place, there⟩ := read_eq_ok_iff.mp before
  exact read_eq_ok_iff.mpr ⟨q, h.leads place, (h.holds (h.leads place)).trans there⟩

/-- Where steps are cut short, the others are before the last one is, or all but the last are taken. -/
theorem Takes.cut_concat {steps : List SaveStep} {s : SaveStep} (h : Takes d (steps ++ [s]) .cut d') :
    Takes d steps .cut d' ∨ ∃ d₁ early, Takes d steps early d₁ ∧ s.Leaves d₁ d' := by
  induction steps generalizing d with
  | nil =>
    refine Or.inr ⟨d, .done, .done d, ?_⟩
    cases h with
    | cut left => exact left
    | next applied rest => cases rest
    | loses k written rest lost =>
      cases rest
      cases lost
  | cons t steps ih =>
    cases h with
    | cut left => exact Or.inl (.cut left)
    | next applied rest =>
      rcases ih rest with early | ⟨d₁, ending, taken, last⟩
      · exact Or.inl (.next applied early)
      · exact Or.inr ⟨d₁, ending, .next applied taken, last⟩
    | @loses _ _ _ _ _ _ ending _ k written rest lost =>
      cases ending with
      | done | torn => cases lost
      | cut =>
        rcases ih rest with early | ⟨d₁, ending, taken, last⟩
        · exact Or.inl (.loses k written early rfl)
        · exact Or.inr ⟨d₁, ending.lost, .loses k written taken rfl, last⟩

theorem avoids_temporaryPath (p : Path) : Avoids p.getLast? (temporaryPath p) :=
  avoids_withExtension (by decide)

/-- Once the new text stands beside the file, the last step puts it in the place of the file. -/
theorem replaced_of_rename (spares : Spares p.getLast? d d₁) {x : Place}
    (beside : d₁.place? (temporaryPath p) = some x) (gathered : d₁.fileAt x = some content)
    (renamed : d₁.rename (temporaryPath p) p = .ok d') : Replaced d d' p content := by
  obtain ⟨a, b, c, from_, onto, there, same, holds, -⟩ := rename_cases renamed
  rw [beside, Option.some.injEq] at from_
  rw [← from_, gathered, Option.some.injEq] at there
  have place : d'.place? p = some b := (same.place? p).trans onto
  refine ⟨fun h => same.1.place? (spares.keeps.place? h), ?_⟩
  rw [read_eq_ok_iff_of_place? place, holds, there]

theorem after_eq_ok_iff {r : Except IoError Disk} : d.after r = (.ok (), d') ↔ r = .ok d' := by
  cases r <;> simp [after]

theorem after_eq_error {r : Except IoError Disk} {e : IoError} (h : d.after r = (.error e, d')) :
    d' = d := by
  cases r with
  | ok d => simp [after] at h
  | error e =>
    simp only [after, Prod.mk.injEq] at h
    exact h.2.symm

def gatherSteps (p : Path) (content : Bytes) : List SaveStep := [
  .makeDirectories p.parent,
  .create (temporaryPath p),
  .fill (temporaryPath p) content,
  .sync (temporaryPath p)]

theorem gatherSteps_avoid : ∀ s ∈ gatherSteps p content, ∀ r ∈ s.touched, Avoids p.getLast? r := by
  simp [gatherSteps, SaveStep.touched, avoids_temporaryPath]

/-- What is written beside the file takes its place in the last step. -/
theorem replaced_of_written (spares : Spares p.getLast? d d₁)
    (written : d₁.write (temporaryPath p) content = .ok d₂)
    (renamed : d₂.rename (temporaryPath p) p = .ok d') : Replaced d d' p content := by
  have after := spares.trans (write_spares written (avoids_temporaryPath p))
  obtain ⟨x, beside, free, rfl⟩ := write_eq_ok_iff.mp written
  exact replaced_of_rename after (((sameDirectories_put free).place? _).trans beside)
    (fileAt_put_same free) renamed

/-- Wherever the steps are cut short, the file at the path is the old one or the whole new one. What
came before the steps may have changed other files. -/
theorem Takes.settled (before : Spares p.getLast? d d₁) {ending : Ending}
    (h : Takes d₁ (saveSteps p content) ending d') : Settled d d' p content ending := by
  cases ending with
  | torn => trivial
  | done =>
    have taken := h.runSteps
    simp only [saveSteps, runSteps_cons_eq_ok_iff, SaveStep.apply, after_eq_ok_iff] at taken
    obtain ⟨d₂, made, d₃, created, d₄, filled, d₅, synced, d₆, renamed, last⟩ := taken
    cases synced
    cases last
    have first : Takes d₁ [.makeDirectories p.parent, .create (temporaryPath p)] .done d₃ :=
      .next made (.next (after_eq_ok_iff.mpr created) (.done d₃))
    have avoids := @gatherSteps_avoid p content
    have spares := first.spares fun s h => avoids s (List.mem_of_mem_take (i := 2) h)
    exact replaced_of_written (before.trans spares) filled renamed
  | cut =>
    have h : Takes d₁ (gatherSteps p content ++ [.replace (temporaryPath p) p]) .cut d' := h
    rcases h.cut_concat with early | ⟨d₂, _, taken, left⟩
    · exact (before.trans (early.spares gatherSteps_avoid)).kept
    · have same : d' = d₂ := by
        cases left with
        | untouched => rfl
        | refused failed => exact after_eq_error failed
      rw [same]
      exact (before.trans (taken.spares gatherSteps_avoid)).kept

/-- Nothing is lost by steps that write nothing. -/
theorem Takes.ne_torn {steps : List SaveStep} {ending : Ending} (h : Takes d steps ending d')
    (plain : ∀ p content, .fill p content ∉ steps) : ending ≠ .torn := by
  induction h with
  | done | cut => nofun
  | next _ _ ih => exact ih fun p content there => plain p content (List.mem_cons_of_mem _ there)
  | loses => exact absurd List.mem_cons_self (plain _ _)

/-- What was not lost of a torn text takes the place of the file as a whole text does. -/
theorem Takes.torn (h : Takes d (saveSteps p content) .torn d') :
    ∃ k, Replaced d d' p (content.take k) := by
  obtain _ | _ | @⟨_, d₁, _, _, _, _, made, h⟩ := h
  obtain _ | _ | @⟨_, d₂, _, _, _, _, created, h⟩ := h
  have first : Takes d [.makeDirectories p.parent, .create (temporaryPath p)] .done d₂ :=
    .next made (.next created (.done d₂))
  have avoids := @gatherSteps_avoid p content
  have spares := first.spares fun s h => avoids s (List.mem_of_mem_take (i := 2) h)
  cases h with
  | next filled rest => exact absurd rfl (rest.ne_torn (by simp))
  | @loses _ d₃ _ _ _ _ ending _ k written rest lost =>
    cases ending with
    | cut => cases lost
    | torn => exact absurd rfl (rest.ne_torn (by simp))
    | done =>
      have taken := rest.runSteps
      simp only [runSteps_cons_eq_ok_iff, SaveStep.apply, after_eq_ok_iff] at taken
      obtain ⟨d₄, synced, d₅, renamed, last⟩ := taken
      cases synced
      cases last
      exact ⟨k, replaced_of_written spares written renamed⟩

end BridgeKeeper.Disk
