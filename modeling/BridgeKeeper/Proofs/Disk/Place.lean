import BridgeKeeper.Disk.JsonFile
import BridgeKeeper.Proofs.Lookup

/-!
# Where paths lead

A path whose directories are there leads to one place. Reading, writing and renaming files come down
to what stands at the places of their paths. Which place that is depends on the directories alone, so
a path keeps leading where it leads while files come and go and directories are made.
-/
namespace BridgeKeeper.Disk

variable {d d' : Disk} {p : Path} {q : Place} {c : Bytes}

/-! ## Places -/

theorem not_isOuter (h : d.at? q ≠ some .directory) : isOuter q = false := by
  cases outer : isOuter q with
  | false => rfl
  | true => exact absurd (by simp [at?, outer]) h

theorem at?_put_other (n : Node) {x : Place} (h : x ≠ q) : (d.put q n).at? x = d.at? x := by
  have : (x == q) = false := by simpa using h
  simp [at?, put, List.lookup_cons, this, lookup_filter_ne h]

theorem at?_put_same (n : Node) (h : isOuter q = false) : (d.put q n).at? q = some n := by
  simp [at?, put, h]

theorem at?_drop_other {x : Place} (h : x ≠ q) : (d.drop q).at? x = d.at? x := by
  simp [at?, drop, lookup_filter_ne h]

theorem at?_drop_same (h : isOuter q = false) : (d.drop q).at? q = none := by
  simp [at?, drop, h, lookup_filter_same]

def fileAt (d : Disk) (q : Place) : Option Bytes :=
  match d.at? q with
  | some (.file c) => some c
  | _ => none

theorem fileAt_eq_some_iff : d.fileAt q = some c ↔ d.at? q = some (.file c) := by
  rw [fileAt]
  split <;> simp_all

def place? (d : Disk) (p : Path) : Option Place :=
  match d.locate p with
  | .ok (.entry dir name false) =>
    if Path.nameLimit < name.utf8ByteSize then none else some (dir ++ [name])
  | _ => none

/-! ## Operations on files -/

theorem read_eq_ok_iff : d.read p = .ok c ↔ ∃ q, d.place? p = some q ∧ d.fileAt q = some c := by
  rw [read, look, place?]
  cases d.locate p with
  | error e => simp [bind, Except.bind]
  | ok spot =>
    cases spot with
    | inside dir => simp [bind, Except.bind, pure, Except.pure]
    | entry dir name slash =>
      by_cases long : Path.nameLimit < name.utf8ByteSize
      · cases slash <;> simp [bind, Except.bind, child, long]
      · cases slash <;> rcases h : d.at? (dir ++ [name]) with _ | _ | _ <;>
          simp [bind, Except.bind, pure, Except.pure, child, long, h, fileAt]

theorem write_eq_ok_iff : d.write p c = .ok d' ↔
    ∃ q, d.place? p = some q ∧ d.at? q ≠ some .directory ∧ d.put q (.file c) = d' := by
  rw [write, place?]
  cases d.locate p with
  | error e => simp [bind, Except.bind]
  | ok spot =>
    cases spot with
    | inside dir => simp [bind, Except.bind]
    | entry dir name slash =>
      by_cases long : Path.nameLimit < name.utf8ByteSize
      · cases slash <;> simp [bind, Except.bind, child, long]
      · cases slash <;> rcases h : d.at? (dir ++ [name]) with _ | _ | _ <;>
          simp [bind, Except.bind, pure, Except.pure, child, long, h]

theorem rename_eq_ok_iff {old new : Path} : d.rename old new = .ok d' ↔
    ∃ a b c, d.place? old = some a ∧ d.place? new = some b ∧ d.fileAt a = some c ∧
      d.at? b ≠ some .directory ∧ (d.drop a).put b (.file c) = d' := by
  rw [rename, place?, place?]
  cases d.locate old with
  | error e => simp [bind, Except.bind]
  | ok a =>
    cases d.locate new with
    | error e => simp [bind, Except.bind]
    | ok b =>
      cases a with
      | inside dir => simp [bind, Except.bind]
      | entry oldDir oldName oldSlash =>
        cases b with
        | inside dir => simp [bind, Except.bind]
        | entry newDir newName newSlash =>
          by_cases oldLong : Path.nameLimit < oldName.utf8ByteSize
          · cases oldSlash <;> simp [bind, Except.bind, child, oldLong]
          · by_cases newLong : Path.nameLimit < newName.utf8ByteSize
            · cases newSlash <;> simp [bind, Except.bind, child, oldLong, newLong]
            · rcases from_ : d.at? (oldDir ++ [oldName]) with _ | c | _ <;>
                by_cases onto : d.at? (newDir ++ [newName]) = some .directory <;>
                cases oldSlash <;> cases newSlash <;>
                simp [bind, Except.bind, child, oldLong, newLong, pure, Except.pure, fileAt, from_,
                  onto]

/-! ## Following paths -/

/-- The directories of a disk are there on another one as well, which is mounted where it is. -/
structure KeepsDirectories (d d' : Disk) : Prop where
  mount : d'.mount = d.mount
  there : ∀ q, d.at? q = some .directory → d'.at? q = some .directory

theorem KeepsDirectories.refl (d : Disk) : KeepsDirectories d d := ⟨rfl, fun _ h => h⟩

theorem KeepsDirectories.trans {d₁ d₂ d₃ : Disk} (h : KeepsDirectories d₁ d₂)
    (h' : KeepsDirectories d₂ d₃) : KeepsDirectories d₁ d₃ :=
  ⟨h'.mount.trans h.mount, fun q hq => h'.there q (h.there q hq)⟩

theorem KeepsDirectories.room (h : KeepsDirectories d d') : d'.room = d.room := by
  rw [Disk.room, Disk.room, h.mount]

/-- The ways in which a name leads to a directory. -/
theorem enter_eq_ok_iff {dir x : Place} {name : String} : d.enter dir name = .ok x ↔
    Path.isIdle name = true ∧ x = dir ∨
    Path.isIdle name = false ∧ name = ".." ∧ x = above dir ∨
    Path.isIdle name = false ∧ name ≠ ".." ∧ name.utf8ByteSize ≤ Path.nameLimit ∧
      d.at? (dir ++ [name]) = some .directory ∧ x = dir ++ [name] := by
  rw [enter]
  cases idle : Path.isIdle name with
  | true => simp [eq_comm]
  | false =>
    by_cases up : name = ".."
    · simp [up, eq_comm]
    · by_cases long : Path.nameLimit < name.utf8ByteSize
      · simp [up, child, long, bind, Except.bind, Nat.not_le.mpr long]
      · rcases h : d.at? (dir ++ [name]) with _ | _ | _ <;>
          simp [up, child, long, bind, Except.bind, h, eq_comm, Nat.not_lt.mp long]

theorem KeepsDirectories.enter (keeps : KeepsDirectories d d') {dir x : Place} {name : String}
    (h : d.enter dir name = .ok x) : d'.enter dir name = .ok x := by
  rw [enter_eq_ok_iff] at h ⊢
  rcases h with h | h | ⟨idle, up, short, there, rfl⟩
  · exact Or.inl h
  · exact Or.inr (Or.inl h)
  · exact Or.inr (Or.inr ⟨idle, up, short, keeps.there _ there, rfl⟩)

theorem walk_cons {dir : Place} {name : String} {names : List String} :
    d.walk dir (name :: names) = (d.enter dir name).bind fun x => d.walk x names := by
  rw [walk]
  rfl

theorem KeepsDirectories.walk (keeps : KeepsDirectories d d') {dir x : Place} {names : List String}
    (h : d.walk dir names = .ok x) : d'.walk dir names = .ok x := by
  induction names generalizing dir with
  | nil => exact h
  | cons name names ih =>
    rw [walk_cons] at h ⊢
    cases entered : d.enter dir name with
    | error e => rw [entered] at h; cases h
    | ok next =>
      rw [entered] at h
      rw [keeps.enter entered]
      exact ih h

theorem KeepsDirectories.locate (keeps : KeepsDirectories d d') {s : Spot}
    (h : d.locate p = .ok s) : d'.locate p = .ok s := by
  unfold Disk.locate at h ⊢
  rw [keeps.room]
  split
  · next nul => simp [nul] at h
  · next clean =>
    split
    · next long => simp [clean, long] at h
    · next short =>
      simp only [clean, short, if_false] at h
      split
      · next top => simpa [top] using h
      · next name names last =>
        simp only [last] at h
        cases walked : d.walk [] names.reverse with
        | error e => simp [walked, bind, Except.bind] at h
        | ok dir =>
          rw [walked] at h
          rw [keeps.walk walked]
          exact h

/-- A path keeps leading where it leads while directories are only added. -/
theorem KeepsDirectories.place? (keeps : KeepsDirectories d d') (h : d.place? p = some q) :
    d'.place? p = some q := by
  rw [Disk.place?] at h ⊢
  cases located : d.locate p with
  | error e => simp [located] at h
  | ok s => rw [keeps.locate located]; rwa [located] at h

theorem locate_concat {names : List String} {name : String}
    (nul : Path.hasNul (names ++ [name]) = false)
    (short : Path.size (names ++ [name]) ≤ d.room) (named : name ≠ "") :
    d.locate (names ++ [name]) = (d.walk [] names).bind fun dir =>
      .ok (if name = "." then .inside dir else if name = ".." then .inside (above dir)
        else .entry dir name false) := by
  have kept : (names ++ [name]).reverse.dropWhile (· = "") = name :: names.reverse := by
    simp [named]
  have noSlash : Path.endsInSlash (names ++ [name]) = false := by simp [Path.endsInSlash, named]
  rw [Disk.locate, if_neg (by simp [nul]), if_neg (by omega)]
  simp only [kept, noSlash, List.reverse_reverse]
  cases d.walk [] names with
  | error e => rfl
  | ok dir =>
    by_cases here : name = "."
    · simp [here, bind, Except.bind, pure, Except.pure]
    · by_cases up : name = ".." <;> simp [here, up, bind, Except.bind, pure, Except.pure]

/-- A path that ends in a slash names no file. -/
theorem place?_eq_none_of_slash (slash : p = [] ∨ p.endsInSlash = true) : d.place? p = none := by
  rw [Disk.place?, Disk.locate]
  split
  · next dir name located =>
    exfalso
    split at located
    · cases located
    · split at located
      · cases located
      · split at located
        · cases located
        · next last names rest =>
          rcases slash with rfl | slash
          · cases rest
          · cases walked : d.walk [] names.reverse <;>
              simp [walked, slash, bind, Except.bind, pure, Except.pure] at located
            split at located
            · cases located
            · split at located <;> cases located
  · rfl

/-- A path leads to a place if its last name counts, the names before it lead to a directory, and
nothing is too long. -/
theorem place?_eq_some_iff : d.place? p = some q ↔ ∃ names name dir, p = names ++ [name] ∧
    p.hasNul = false ∧ p.size ≤ d.room ∧ d.walk [] names = .ok dir ∧
    Path.isIdle name = false ∧ name ≠ ".." ∧ name.utf8ByteSize ≤ Path.nameLimit ∧
    q = dir ++ [name] := by
  constructor
  · intro h
    have noSlash : ¬ (p = [] ∨ p.endsInSlash = true) := by
      intro slash
      rw [place?_eq_none_of_slash slash] at h
      cases h
    rcases p.eq_nil_or_concat with rfl | ⟨names, name, rfl⟩
    · exact absurd (Or.inl rfl) noSlash
    · rw [List.concat_eq_append] at h noSlash ⊢
      have named : name ≠ "" := by
        rintro rfl
        exact noSlash (Or.inr (by simp [Path.endsInSlash]))
      cases nul : Path.hasNul (names ++ [name]) with
      | true => simp [Disk.place?, Disk.locate, nul] at h
      | false =>
        by_cases long : d.room < Path.size (names ++ [name])
        · simp [Disk.place?, Disk.locate, nul, long] at h
        · rw [Disk.place?, locate_concat nul (Nat.not_lt.mp long) named] at h
          cases walked : d.walk [] names with
          | error e => simp [walked, Except.bind] at h
          | ok dir =>
            by_cases here : name = "."
            · simp [walked, Except.bind, here] at h
            · by_cases up : name = ".."
              · simp [walked, Except.bind, up] at h
              · simp [walked, Except.bind, here, up] at h
                exact ⟨names, name, dir, rfl, rfl, Nat.not_lt.mp long, walked,
                  by simp [Path.isIdle, named, here], up, h.1, h.2.symm⟩
  · rintro ⟨names, name, dir, rfl, nul, short, walked, counts, up, fits, rfl⟩
    have other : name ≠ "" ∧ name ≠ "." := by simpa [Path.isIdle] using counts
    rw [Disk.place?, locate_concat nul short other.1, walked]
    simp [Except.bind, other.2, up, Nat.not_lt.mpr fits]

/-! ## Names with other extensions -/

/-- The stem is the whole name, or what stands before its last dot. -/
theorem stem_cases (cs : List Char) :
    stem cs = cs ∨ ∃ e, cs = stem cs ++ '.' :: e ∧ '.' ∉ e := by
  rw [stem]
  split
  · exact Or.inl rfl
  · next dot before rest =>
    split
    · exact Or.inl rfl
    · right
      have whole := List.takeWhile_append_dropWhile (p := (· != '.')) (l := cs.reverse)
      have isDot : dot = '.' := by
        have := List.head?_dropWhile_not (· != '.') cs.reverse
        simpa [rest] using this
      refine ⟨(cs.reverse.takeWhile (· != '.')).reverse, ?_, ?_⟩
      · rw [rest, isDot] at whole
        simpa using (congrArg List.reverse whole).symm
      · intro h
        have := List.all_eq_true.mp List.all_takeWhile _ (List.mem_reverse.mp h)
        simp at this

/-- A name with an extension that has a dot in it is another name. -/
theorem nameWithExtension_ne {name extension : String} (dot : '.' ∈ extension.toList) :
    nameWithExtension name extension ≠ name := by
  intro same
  have same : stem name.toList ++ '.' :: extension.toList = name.toList := by
    have := congrArg String.toList same
    rwa [nameWithExtension, String.toList_ofList] at this
  rcases stem_cases name.toList with whole | ⟨e, cut, plain⟩
  · rw [whole] at same
    have := congrArg List.length same
    simp at this
  · have := List.append_cancel_left (same.trans cut)
    rw [List.cons.injEq] at this
    exact plain (this.2 ▸ dot)

/-- Two extensions give two names. -/
theorem nameWithExtension_inj {name e e' : String}
    (h : nameWithExtension name e = nameWithExtension name e') : e = e' := by
  have := congrArg String.toList h
  rw [nameWithExtension, nameWithExtension, String.toList_ofList, String.toList_ofList] at this
  have := List.append_cancel_left this
  rw [List.cons.injEq] at this
  exact String.toList_injective this.2

theorem getLast?_of_place? (h : d.place? p = some q) :
    ∃ name, q.getLast? = some name ∧ p.getLast? = some name ∧ p.plain.getLast? = some name ∧
      name ≠ ".." := by
  obtain ⟨names, name, dir, rfl, -, -, -, counts, up, -, rfl⟩ := place?_eq_some_iff.mp h
  refine ⟨name, by simp, by simp, ?_, up⟩
  simp [Path.plain, List.filter_append, counts]

/-- Paths with other extensions end in names that differ as the extensions do. -/
theorem getLast?_withExtension (h : d.place? p = some q) : ∃ name, p.getLast? = some name ∧
    ∀ e, (withExtension p e).getLast? = some (nameWithExtension name e) := by
  obtain ⟨name, -, last, plain, up⟩ := getLast?_of_place? h
  refine ⟨name, last, fun e => ?_⟩
  simp [withExtension, plain, up]

end BridgeKeeper.Disk
