import BridgeKeeper.Proofs.Disk.Place

/-!
# Making directories

Making the directories of a path adds directories where nothing stood and changes nothing else. Where
the path leads to a directory already nothing is made, and when it succeeds the path does.
-/
namespace BridgeKeeper.Disk

variable {d d' d₁ d₂ d₃ : Disk} {p : Path} {q : Place}

def SameDirectories (d d' : Disk) : Prop := KeepsDirectories d d' ∧ KeepsDirectories d' d

theorem SameDirectories.refl (d : Disk) : SameDirectories d d := ⟨.refl d, .refl d⟩

theorem SameDirectories.symm (h : SameDirectories d d') : SameDirectories d' d := ⟨h.2, h.1⟩

theorem SameDirectories.trans (h : SameDirectories d₁ d₂) (h' : SameDirectories d₂ d₃) :
    SameDirectories d₁ d₃ := ⟨h.1.trans h'.1, h'.2.trans h.2⟩

theorem SameDirectories.place? (h : SameDirectories d d') (p : Path) : d'.place? p = d.place? p := by
  cases here : d.place? p with
  | some q => exact h.1.place? here
  | none =>
    cases there : d'.place? p with
    | none => rfl
    | some q =>
      rw [h.2.place? there] at here
      cases here

theorem SameDirectories.at?_iff (h : SameDirectories d d') (q : Place) :
    d'.at? q = some .directory ↔ d.at? q = some .directory := ⟨h.2.there q, h.1.there q⟩

theorem sameDirectories_put {c : Bytes} (free : d.at? q ≠ some .directory) :
    SameDirectories d (d.put q (.file c)) := by
  have inner := not_isOuter free
  refine ⟨⟨rfl, fun x hx => ?_⟩, ⟨rfl, fun x hx => ?_⟩⟩
  · have : x ≠ q := by
      rintro rfl
      exact free hx
    rwa [at?_put_other _ this]
  · by_cases same : x = q
    · rw [same, at?_put_same _ inner] at hx
      cases hx
    · rwa [at?_put_other _ same] at hx

theorem sameDirectories_drop (free : d.at? q ≠ some .directory) :
    SameDirectories d (d.drop q) := by
  have inner := not_isOuter free
  refine ⟨⟨rfl, fun x hx => ?_⟩, ⟨rfl, fun x hx => ?_⟩⟩
  · have : x ≠ q := by
      rintro rfl
      exact free hx
    rwa [at?_drop_other this]
  · by_cases same : x = q
    · rw [same, at?_drop_same inner] at hx
      cases hx
    · rwa [at?_drop_other same] at hx

/-- A disk with some directories made on it. -/
structure AddsDirectories (d d' : Disk) : Prop where
  mount : d'.mount = d.mount
  places : ∀ q, d'.at? q = d.at? q ∨ d.at? q = none ∧ d'.at? q = some .directory

namespace AddsDirectories

theorem refl (d : Disk) : AddsDirectories d d := ⟨rfl, fun _ => Or.inl rfl⟩

theorem trans (h : AddsDirectories d₁ d₂) (h' : AddsDirectories d₂ d₃) : AddsDirectories d₁ d₃ := by
  refine ⟨h'.mount.trans h.mount, fun q => ?_⟩
  rcases h.places q with same | ⟨free, made⟩
  · rw [← same]
    exact h'.places q
  · rcases h'.places q with same | ⟨gone, -⟩
    · exact Or.inr ⟨free, same.trans made⟩
    · rw [made] at gone
      cases gone

theorem keeps (h : AddsDirectories d d') : KeepsDirectories d d' := by
  refine ⟨h.mount, fun q hq => ?_⟩
  rcases h.places q with same | ⟨free, -⟩
  · exact same.trans hq
  · rw [free] at hq
    cases hq

theorem fileAt (h : AddsDirectories d d') (q : Place) : d'.fileAt q = d.fileAt q := by
  rcases h.places q with same | ⟨free, made⟩
  · rw [Disk.fileAt, Disk.fileAt, same]
  · rw [Disk.fileAt, Disk.fileAt, free, made]

end AddsDirectories

theorem makeDirectory_eq_ok (h : d.makeDirectory p = .ok d') :
    ∃ dir name slash, d.locate p = .ok (.entry dir name slash) ∧
      name.utf8ByteSize ≤ Path.nameLimit ∧ d.at? (dir ++ [name]) = none ∧
      d' = d.put (dir ++ [name]) .directory := by
  rw [makeDirectory] at h
  cases located : d.locate p with
  | error e => simp [located, bind, Except.bind] at h
  | ok s =>
    cases s with
    | inside dir => simp [located, bind, Except.bind] at h
    | entry dir name slash =>
      by_cases long : Path.nameLimit < name.utf8ByteSize
      · simp [located, bind, Except.bind, child, long] at h
      · cases free : d.at? (dir ++ [name]) with
        | some n => simp [located, bind, Except.bind, child, long, free] at h
        | none =>
          simp [located, bind, Except.bind, pure, Except.pure, child, long, free] at h
          exact ⟨dir, name, slash, rfl, Nat.not_lt.mp long, free, h.symm⟩

theorem adds_put (free : d.at? q = none) : AddsDirectories d (d.put q .directory) := by
  refine ⟨rfl, fun x => ?_⟩
  by_cases same : x = q
  · have other : d.at? q ≠ some .directory := by simp [free]
    rw [same, at?_put_same _ (not_isOuter other)]
    exact Or.inr ⟨free, rfl⟩
  · exact Or.inl (at?_put_other _ same)

theorem ensureDirectory_cases (h : d.ensureDirectory p = .ok d') :
    d.makeDirectory p = .ok d' ∨ d' = d ∧ d.isDirectory p = true := by
  rw [ensureDirectory] at h
  split at h
  · next made =>
    cases h
    exact Or.inl made
  · split at h
    · next there =>
      cases h
      exact Or.inr ⟨rfl, there.2⟩
    · cases h

theorem ensureDirectory_adds (h : d.ensureDirectory p = .ok d') : AddsDirectories d d' := by
  rcases ensureDirectory_cases h with made | ⟨rfl, -⟩
  · obtain ⟨dir, name, slash, -, -, free, rfl⟩ := makeDirectory_eq_ok made
    exact adds_put free
  · exact .refl d'

theorem after_ensureDirectory_adds (d : Disk) (p : Path) :
    AddsDirectories d (d.after (d.ensureDirectory p)).2 := by
  cases made : d.ensureDirectory p with
  | error e => exact .refl d
  | ok d' => exact ensureDirectory_adds made

theorem makeDirectoriesUp_adds (d : Disk) (p : Path) (names : List String) :
    AddsDirectories d (d.makeDirectoriesUp p names).2 := by
  induction names generalizing p with
  | nil => exact after_ensureDirectory_adds d p
  | cons name names ih =>
    rw [makeDirectoriesUp]
    have above := ih names.reverse
    split
    · split
      · next made =>
        rw [made] at above
        exact above.trans (after_ensureDirectory_adds _ p)
      · exact above
    · exact after_ensureDirectory_adds d p

theorem makeDirectories_adds (d : Disk) (p : Path) : AddsDirectories d (d.makeDirectories p).2 :=
  makeDirectoriesUp_adds d p _

/-! ## Directories that are there -/

theorem walk_append (dir : Place) (a b : List String) :
    d.walk dir (a ++ b) = (d.walk dir a).bind fun x => d.walk x b := by
  induction a generalizing dir with
  | nil => rfl
  | cons name a ih =>
    rw [List.cons_append, walk_cons, walk_cons]
    cases d.enter dir name with
    | error e => rfl
    | ok x => exact ih x

/-- Names that lead nowhere else may be left out. -/
theorem walk_plain (dir : Place) (p : Path) : d.walk dir p.plain = d.walk dir p := by
  induction p generalizing dir with
  | nil => rfl
  | cons name p ih =>
    cases idle : Path.isIdle name with
    | true =>
      rw [walk_cons, show d.enter dir name = .ok dir by simp [enter, idle],
        show Path.plain (name :: p) = Path.plain p by simp [Path.plain, idle]]
      exact ih dir
    | false =>
      rw [walk_cons, show Path.plain (name :: p) = name :: Path.plain p by simp [Path.plain, idle],
        walk_cons]
      cases d.enter dir name with
      | error e => rfl
      | ok x => exact ih x

theorem walk_singleton (dir : Place) (name : String) : d.walk dir [name] = d.enter dir name := by
  rw [walk_cons]
  cases d.enter dir name <;> rfl

/-- The names of a path are fit for the system and lead to a directory. -/
structure Reaches (d : Disk) (p : Path) : Prop where
  nul : p.hasNul = false
  short : p.size ≤ d.room
  walked : ∃ x, d.walk [] p = .ok x

theorem size_append_le (a b : Path) : Path.size a ≤ Path.size (a ++ b) := by
  have grows : ∀ (a : Path) (n m : Nat), n ≤ m →
      a.foldr (fun name n => name.utf8ByteSize + 1 + n) n ≤
        a.foldr (fun name n => name.utf8ByteSize + 1 + n) m := by
    intro a n m h
    induction a with
    | nil => exact h
    | cons name a ih => exact Nat.add_le_add_left ih _
  rw [Path.size, Path.size, List.foldr_append]
  exact Nat.sub_le_sub_right (grows a _ _ (Nat.zero_le _)) 1

theorem size_plain_le (p : Path) : Path.size p.plain ≤ p.size := by
  refine Nat.sub_le_sub_right ?_ 1
  induction p with
  | nil => exact Nat.le_refl _
  | cons name p ih =>
    cases idle : Path.isIdle name with
    | true => simpa [Path.plain, idle] using Nat.le_trans ih (Nat.le_add_left _ _)
    | false => simpa [Path.plain, idle] using ih

theorem Reaches.append_left {a b : Path} (h : d.Reaches (a ++ b)) : d.Reaches a := by
  obtain ⟨nul, short, x, walked⟩ := h
  refine ⟨?_, Nat.le_trans (size_append_le a b) short, ?_⟩
  · rw [Path.hasNul, List.any_append, Bool.or_eq_false_iff] at nul
    exact nul.1
  · rw [walk_append] at walked
    cases first : d.walk [] a with
    | ok y => exact ⟨y, rfl⟩
    | error e => simp [first, Except.bind] at walked

theorem Reaches.keeps (h : d.Reaches p) (keeps : KeepsDirectories d d') : d'.Reaches p := by
  obtain ⟨x, walked⟩ := h.walked
  exact ⟨h.nul, keeps.room ▸ h.short, x, keeps.walk walked⟩

/-- A path of names that count is followed up to the last of them. -/
theorem locate_eq_ok {s : Spot} (h : d.locate p = .ok s)
    (counts : ∀ name ∈ p, Path.isIdle name = false) : p.hasNul = false ∧ p.size ≤ d.room ∧
      (p = [] ∨ ∃ names name dir, p = names ++ [name] ∧ Path.isIdle name = false ∧
        d.walk [] names = .ok dir ∧
        s = if name = ".." then .inside (above dir) else .entry dir name false) := by
  cases nul : p.hasNul with
  | true => simp [locate, nul] at h
  | false =>
    by_cases long : d.room < p.size
    · simp [locate, nul, long] at h
    · have short := Nat.not_lt.mp long
      refine ⟨rfl, short, ?_⟩
      rcases p.eq_nil_or_concat with rfl | ⟨names, name, rfl⟩
      · exact Or.inl rfl
      · rw [List.concat_eq_append] at *
        have named : Path.isIdle name = false := counts name (by simp)
        have other : name ≠ "" ∧ name ≠ "." := by simpa [Path.isIdle] using named
        rw [locate_concat nul short other.1] at h
        cases above : d.walk [] names with
        | error e => simp [above, Except.bind] at h
        | ok dir =>
          rw [above, Except.bind, if_neg other.2, Except.ok.injEq] at h
          exact Or.inr ⟨names, name, dir, rfl, named, above, h.symm⟩

theorem isDirectory_of_inside {dir : Place} (located : d.locate p = .ok (.inside dir)) :
    d.isDirectory p = true := by
  simp [isDirectory, look, located, bind, Except.bind, pure, Except.pure]

theorem isDirectory_of_entry {dir : Place} {name : String} {slash : Bool}
    (located : d.locate p = .ok (.entry dir name slash)) : d.isDirectory p = true ↔
      name.utf8ByteSize ≤ Path.nameLimit ∧ d.at? (dir ++ [name]) = some .directory := by
  rw [isDirectory, look, located]
  by_cases long : Path.nameLimit < name.utf8ByteSize
  · simp [bind, Except.bind, child, long, Nat.not_le.mpr long]
  · rcases at_ : d.at? (dir ++ [name]) with _ | c | _ <;> cases slash <;>
      simp [bind, Except.bind, pure, Except.pure, child, long, at_, Nat.not_lt.mp long]

/-- A path leads to a directory where its names do, one after another. -/
theorem isDirectory_iff_reaches (counts : ∀ name ∈ p, Path.isIdle name = false) :
    d.isDirectory p = true ↔ d.Reaches p := by
  constructor
  · intro there
    cases located : d.locate p with
    | error e => simp [isDirectory, look, located, bind, Except.bind] at there
    | ok s =>
      obtain ⟨nul, short, rfl | ⟨names, name, dir, rfl, named, walked, rfl⟩⟩ :=
        locate_eq_ok located counts
      · exact ⟨nul, short, [], rfl⟩
      · refine ⟨nul, short, ?_⟩
        rw [walk_append, walked, Except.bind, walk_singleton]
        by_cases up : name = ".."
        · exact ⟨_, enter_eq_ok_iff.mpr (Or.inr (Or.inl ⟨named, up, rfl⟩))⟩
        · rw [if_neg up] at located
          obtain ⟨fits, at_⟩ := (isDirectory_of_entry located).mp there
          exact ⟨_, enter_eq_ok_iff.mpr (Or.inr (Or.inr ⟨named, up, fits, at_, rfl⟩))⟩
  · rintro ⟨nul, short, x, walked⟩
    rcases p.eq_nil_or_concat with rfl | ⟨names, name, rfl⟩
    · simp [isDirectory, look, locate, nul, Path.size, bind, Except.bind, child, at?, isOuter,
        topEntry, pure, Except.pure]
    · rw [List.concat_eq_append] at *
      have named : Path.isIdle name = false := counts name (by simp)
      have other : name ≠ "" ∧ name ≠ "." := by simpa [Path.isIdle] using named
      have located := locate_concat (d := d) nul short other.1
      rw [walk_append] at walked
      cases above : d.walk [] names with
      | error e => simp [above, Except.bind] at walked
      | ok dir =>
        rw [above, Except.bind, walk_singleton] at walked
        rw [above, Except.bind, if_neg other.2] at located
        rcases enter_eq_ok_iff.mp walked with ⟨idle, -⟩ | ⟨-, rfl, -⟩ | ⟨-, up, fits, there, -⟩
        · rw [named] at idle
          cases idle
        · exact isDirectory_of_inside located
        · rw [if_neg up] at located
          exact (isDirectory_of_entry located).mpr ⟨fits, there⟩

theorem makeDirectory_of_isDirectory (there : d.isDirectory p = true) :
    d.makeDirectory p = .error .exists := by
  cases located : d.locate p with
  | error e => simp [isDirectory, look, located, bind, Except.bind] at there
  | ok s =>
    cases s with
    | inside dir => simp [makeDirectory, located, bind, Except.bind]
    | entry dir name slash =>
      obtain ⟨fits, at_⟩ := (isDirectory_of_entry located).mp there
      simp [makeDirectory, located, bind, Except.bind, child, Nat.not_lt.mpr fits, at_]

/-- The path leads to the directory that was made. -/
theorem reaches_of_makeDirectory (h : d.makeDirectory p = .ok d')
    (counts : ∀ name ∈ p, Path.isIdle name = false) : d'.Reaches p := by
  obtain ⟨dir, name, slash, located, fits, free, rfl⟩ := makeDirectory_eq_ok h
  obtain ⟨nul, short, rfl | ⟨names, last, dir', rfl, named, walked, spot⟩⟩ :=
    locate_eq_ok located counts
  · exact ⟨nul, short, [], rfl⟩
  · by_cases up : last = ".."
    · rw [if_pos up] at spot
      cases spot
    · rw [if_neg up] at spot
      cases spot
      have keeps := (adds_put free).keeps
      have other : d.at? (dir ++ [name]) ≠ some .directory := by simp [free]
      have here := at?_put_same (d := d) .directory (not_isOuter other)
      refine ⟨nul, short, dir ++ [name], ?_⟩
      rw [walk_append, keeps.walk walked, Except.bind, walk_singleton]
      exact enter_eq_ok_iff.mpr (Or.inr (Or.inr ⟨named, up, fits, here, rfl⟩))

/-- Where a directory is there, none is made. -/
theorem ensureDirectory_of_isDirectory (there : d.isDirectory p = true) :
    d.ensureDirectory p = .ok d := by
  rw [ensureDirectory, makeDirectory_of_isDirectory there]
  exact if_pos ⟨rfl, there⟩

theorem ensureDirectory_of_reaches (h : d.Reaches p)
    (counts : ∀ name ∈ p, Path.isIdle name = false) : d.ensureDirectory p = .ok d :=
  ensureDirectory_of_isDirectory ((isDirectory_iff_reaches counts).mpr h)

theorem reaches_of_ensureDirectory (h : d.ensureDirectory p = .ok d')
    (counts : ∀ name ∈ p, Path.isIdle name = false) : d'.Reaches p := by
  rcases ensureDirectory_cases h with made | ⟨rfl, there⟩
  · exact reaches_of_makeDirectory made counts
  · exact (isDirectory_iff_reaches counts).mp there

/-! ## Making them -/

/-- What makes the directories of a path comes out with a disk on which the path leads to one exactly
if it succeeds. The names are those of the path from the bottom up. -/
theorem makeDirectoriesUp_ok_iff (d : Disk) (names : List String)
    (counts : ∀ name ∈ names, Path.isIdle name = false) :
    (d.makeDirectoriesUp names.reverse names).1 = .ok () ↔
      (d.makeDirectoriesUp names.reverse names).2.Reaches names.reverse := by
  have tried {x : Disk} {p : Path} (counts : ∀ name ∈ p, Path.isIdle name = false) :
      (x.after (x.ensureDirectory p)).1 = .ok () ↔ (x.after (x.ensureDirectory p)).2.Reaches p := by
    cases made : x.ensureDirectory p with
    | ok x' => exact iff_of_true rfl (reaches_of_ensureDirectory made counts)
    | error e =>
      refine iff_of_false (by simp [after]) fun there => ?_
      rw [ensureDirectory_of_reaches (d := x) there counts] at made
      cases made
  induction names with
  | nil => exact tried counts
  | cons name rest ih =>
    have above := ih fun x hx => counts x (List.mem_cons_of_mem _ hx)
    have whole : ∀ x ∈ (name :: rest).reverse, Path.isIdle x = false := fun x hx =>
      counts x (List.mem_reverse.mp hx)
    rw [makeDirectoriesUp]
    split
    · split
      · exact tried whole
      · next failed =>
        have : (d.makeDirectoriesUp rest.reverse rest).1 ≠ .ok () := by
          intro ok
          exact failed _ (Prod.ext ok rfl)
        refine iff_of_false this fun there => this (above.mpr ?_)
        rw [List.reverse_cons] at there
        exact there.append_left
    · exact tried whole

theorem counts_parent (p : Path) : ∀ name ∈ p.parent, Path.isIdle name = false := by
  intro name h
  have := (List.mem_filter.mp (List.dropLast_subset _ h)).2
  simpa using this

theorem plain_parent (p : Path) : p.parent.plain = p.parent :=
  List.filter_eq_self.mpr fun name h => by simp [counts_parent p name h]

theorem makeDirectories_ok_iff (d : Disk) (p : Path) :
    (d.makeDirectories p.parent).1 = .ok () ↔ (d.makeDirectories p.parent).2.Reaches p.parent := by
  have := makeDirectoriesUp_ok_iff d p.parent.reverse fun name h =>
    counts_parent p name (List.mem_reverse.mp h)
  rw [List.reverse_reverse] at this
  rwa [makeDirectories, plain_parent]

/-- Where the directories are there, none is made. -/
theorem makeDirectories_of_reaches (h : d.Reaches p.parent) :
    d.makeDirectories p.parent = (.ok (), d) := by
  have done := ensureDirectory_of_reaches h (counts_parent p)
  rw [makeDirectories, plain_parent]
  cases p.parent.reverse with
  | nil => rw [makeDirectoriesUp, done]; rfl
  | cons name names => rw [makeDirectoriesUp, done]; rfl

theorem parent_concat {name : String} (counts : Path.isIdle name = false) (names : List String) :
    Path.parent (names ++ [name]) = Path.plain names := by
  simp [Path.parent, Path.plain, List.filter_append, counts]

/-- A path that leads to a place has its directories. -/
theorem reaches_parent (h : d.place? p = some q) : d.Reaches p.parent := by
  obtain ⟨names, name, dir, rfl, nul, short, walked, counts, -, -, -⟩ := place?_eq_some_iff.mp h
  rw [parent_concat counts]
  refine ⟨?_, ?_, dir, by rw [walk_plain, walked]⟩
  · rw [Path.hasNul, List.any_eq_false] at nul ⊢
    exact fun x hx => nul x (List.mem_append_left _ (List.mem_filter.mp hx).1)
  · exact Nat.le_trans (size_plain_le names) (Nat.le_trans (size_append_le _ _) short)

theorem place?_of_makeDirectories_failed (h : (d.makeDirectories p.parent).1 ≠ .ok ()) :
    (d.makeDirectories p.parent).2.place? p = none := by
  cases here : (d.makeDirectories p.parent).2.place? p with
  | none => rfl
  | some q => exact absurd ((makeDirectories_ok_iff d p).mpr (reaches_parent here)) h

end BridgeKeeper.Disk
