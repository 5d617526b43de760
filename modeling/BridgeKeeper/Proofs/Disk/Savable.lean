import Mathlib.Data.List.Induction
import Mathlib.Data.List.Infix
import BridgeKeeper.Proofs.Disk.Saving

/-!
# Where a file can be saved

Saving makes the directories that a path lacks and then puts the file in its place, by way of a file
beside it. It makes no directory that could have been done without, so it succeeds wherever adding
directories of any choice would let both names take a file.
-/
namespace BridgeKeeper.Disk

open Json (Value)

variable {d d₁ : Disk} {p r : Path} {dir q : Place} {name : String} {v : Value}

/-- A path at which a file can be saved. Its directories need not be there: with some directories added
where nothing stands, a file may be put at the path and at the one beside it. -/
def Savable (d : Disk) (p : Path) : Prop := ∃ d₁, AddsDirectories d d₁ ∧ Replaceable d₁ p

/-! ## No more directories than needed -/

theorem AddsDirectories.put (h : AddsDirectories d d₁) (there : d₁.at? q = some .directory)
    (free : d.at? q = none) : AddsDirectories (d.put q .directory) d₁ := by
  refine ⟨h.mount, fun x => ?_⟩
  by_cases same : x = q
  · have other : d.at? q ≠ some .directory := by simp [free]
    rw [same, at?_put_same _ (not_isOuter other)]
    exact Or.inl there
  · rw [at?_put_other _ same]
    exact h.places x

theorem enter_of_adds (h : AddsDirectories d d₁) (entered : d₁.enter dir name = .ok q) :
    d.enter dir name = .ok q ∨ d.enter dir name = .error .notFound := by
  rw [enter_eq_ok_iff] at entered ⊢
  rcases entered with idle | up | ⟨counts, up, fits, there, rfl⟩
  · exact Or.inl (Or.inl idle)
  · exact Or.inl (Or.inr (Or.inl up))
  · rcases h.places (dir ++ [name]) with same | ⟨free, -⟩
    · exact Or.inl (Or.inr (Or.inr ⟨counts, up, fits, same ▸ there, rfl⟩))
    · right
      simp [enter, counts, up, child, Nat.not_lt.mpr fits, free, bind, Except.bind]

/-- Names that lead to a directory on the fuller disk lead there already, or one of them is missing. -/
theorem walk_of_adds (h : AddsDirectories d d₁) {names : List String}
    (walked : d₁.walk dir names = .ok q) :
    d.walk dir names = .ok q ∨ d.walk dir names = .error .notFound := by
  induction names generalizing dir with
  | nil => exact Or.inl walked
  | cons name names ih =>
    rw [walk_cons] at walked ⊢
    cases entered : d₁.enter dir name with
    | error e => rw [entered] at walked; cases walked
    | ok next =>
      rw [entered] at walked
      rcases enter_of_adds h entered with here | missing
      · rw [here]
        exact ih walked
      · rw [missing]
        exact Or.inr rfl

theorem ensureDirectory_of_missing (nul : Path.hasNul (p ++ [name]) = false)
    (short : Path.size (p ++ [name]) ≤ d.room) (named : name ≠ "")
    (missing : d.walk [] p = .error .notFound) :
    d.ensureDirectory (p ++ [name]) = .error .notFound := by
  have located := locate_concat (d := d) nul short named
  rw [missing, Except.bind] at located
  simp [ensureDirectory, makeDirectory, located, bind, Except.bind]

/-- Once the directories above it are there, the one made is one that the fuller disk has. -/
theorem ensureDirectory_of_adds (h : AddsDirectories d d₁) (there : d₁.Reaches (p ++ [name]))
    (counts : Path.isIdle name = false) (walked : d.walk [] p = .ok dir) :
    ∃ d₂, d.ensureDirectory (p ++ [name]) = .ok d₂ ∧ AddsDirectories d₂ d₁ := by
  obtain ⟨nul, short, x, walked₁⟩ := there
  rw [h.keeps.room] at short
  have other : name ≠ "" ∧ name ≠ "." := by simpa [Path.isIdle] using counts
  have located := locate_concat (d := d) nul short other.1
  rw [walked, Except.bind, if_neg other.2] at located
  rw [walk_append, h.keeps.walk walked, Except.bind, walk_singleton] at walked₁
  rcases enter_eq_ok_iff.mp walked₁ with ⟨idle, -⟩ | ⟨-, rfl, -⟩ | ⟨-, up, fits, at_, -⟩
  · rw [counts] at idle
    cases idle
  · exact ⟨d, ensureDirectory_of_isDirectory (isDirectory_of_inside located), h⟩
  · rw [if_neg up] at located
    rcases h.places (dir ++ [name]) with same | ⟨free, -⟩
    · have here := (isDirectory_of_entry located).mpr ⟨fits, same ▸ at_⟩
      exact ⟨d, ensureDirectory_of_isDirectory here, h⟩
    · refine ⟨d.put (dir ++ [name]) .directory, ?_, h.put at_ free⟩
      simp [ensureDirectory, makeDirectory, located, bind, Except.bind, child,
        Nat.not_lt.mpr fits, free, pure, Except.pure]

/-- Directories that another disk has can be made, and nothing that it lacks is. The names are those
of the path from the bottom up, as in the recursion. -/
theorem makeDirectoriesUp_of_adds (h : AddsDirectories d d₁) (names : List String)
    (there : d₁.Reaches names.reverse) (counts : ∀ name ∈ names, Path.isIdle name = false) :
    ∃ d₂, d.makeDirectoriesUp names.reverse names = (.ok (), d₂) ∧ AddsDirectories d₂ d₁ := by
  induction names with
  | nil =>
    have top : d.Reaches [] := ⟨there.nul, h.keeps.room ▸ there.short, [], rfl⟩
    refine ⟨d, ?_, h⟩
    rw [makeDirectoriesUp, List.reverse_nil, ensureDirectory_of_reaches top (by simp)]
    rfl
  | cons name rest ih =>
    have counts₁ : Path.isIdle name = false := counts name List.mem_cons_self
    have countsUp : ∀ n ∈ rest, Path.isIdle n = false := fun n hn =>
      counts n (List.mem_cons_of_mem _ hn)
    have named : name ≠ "" := by
      rintro rfl
      cases counts₁
    rw [List.reverse_cons] at there ⊢
    obtain ⟨x, walked₁⟩ := there.append_left.walked
    rw [makeDirectoriesUp]
    rcases walk_of_adds h walked₁ with walked | missing
    · obtain ⟨d₂, made, adds⟩ := ensureDirectory_of_adds h there counts₁ walked
      exact ⟨d₂, by rw [made]; rfl, adds⟩
    · obtain ⟨d₂, up, adds⟩ := ih there.append_left countsUp
      have reaches : d₂.Reaches rest.reverse := by
        have := makeDirectoriesUp_ok_iff d rest countsUp
        rw [up] at this
        exact this.mp rfl
      obtain ⟨y, walked⟩ := reaches.walked
      obtain ⟨d₃, made, adds⟩ := ensureDirectory_of_adds adds there counts₁ walked
      refine ⟨d₃, ?_, adds⟩
      rw [ensureDirectory_of_missing there.nul (h.keeps.room ▸ there.short) named missing]
      simp only [up, made]
      rfl

theorem makeDirectories_of_adds (h : AddsDirectories d d₁) (there : d₁.Reaches p.parent) :
    ∃ d₂, d.makeDirectories p.parent = (.ok (), d₂) ∧ AddsDirectories d₂ d₁ := by
  have := makeDirectoriesUp_of_adds h p.parent.reverse (by rwa [List.reverse_reverse])
    fun name hn => counts_parent p name (List.mem_reverse.mp hn)
  rw [List.reverse_reverse] at this
  rwa [makeDirectories, plain_parent]

/-! ## Saving -/

/-- A path leads where the fuller disk has it lead once its directories are there. -/
theorem place?_of_reaches (h : KeepsDirectories d d₁) (place : d₁.place? r = some q)
    (there : d.Reaches r.parent) : d.place? r = some q := by
  obtain ⟨names, name, dir, rfl, nul, short, walked, counts, rest⟩ := place?_eq_some_iff.mp place
  obtain ⟨x, here⟩ := there.walked
  rw [parent_concat counts, walk_plain] at here
  have same := h.walk here
  rw [walked, Except.ok.injEq] at same
  rw [h.room] at short
  exact place?_eq_some_iff.mpr ⟨names, name, dir, rfl, nul, short, same ▸ here, counts, rest⟩

theorem Writable.of_adds (h : AddsDirectories d d₁) (writable : Writable d₁ r)
    (there : d.Reaches r.parent) : Writable d r := by
  obtain ⟨q, place, free⟩ := writable
  exact ⟨q, place?_of_reaches h.keeps place there, fun here => free (h.keeps.there q here)⟩

/-- Both names of a file that can be replaced stand in one directory. -/
theorem parent_temporaryPath (h : Replaceable d p) : (temporaryPath p).parent = p.parent := by
  obtain ⟨⟨t, beside, -⟩, ⟨q, place, -⟩⟩ := h
  obtain ⟨own, -, -, last, up⟩ := getLast?_of_place? place
  obtain ⟨names, name, dir, same, -, -, -, counts, -⟩ := place?_eq_some_iff.mp beside
  have whole : temporaryPath p = p.parent ++ [nameWithExtension own "json.tmp"] := by
    simp [temporaryPath, withExtension, last, up]
  obtain ⟨above, -⟩ := List.append_inj' (whole.symm.trans same) rfl
  rw [same, parent_concat counts, ← above, plain_parent]

theorem save_ok_iff_savable (v : Value) (p : Path) (d : Disk) :
    (save v p d).1 = .ok () ↔ Savable d p := by
  constructor
  · intro saved
    by_cases made : (d.makeDirectories p.parent).1 = .ok ()
    · rw [save_of_made made] at saved
      have reaches := (makeDirectories_ok_iff d p).mp made
      exact ⟨_, makeDirectories_adds d p.parent, (save_of_reaches reaches v).1.mp saved⟩
    · exact absurd saved (save_of_not_made made v).1
  · rintro ⟨d₁, adds, free⟩
    obtain ⟨q, place, -⟩ := free.2
    obtain ⟨d₂, made, fewer⟩ := makeDirectories_of_adds adds (reaches_parent place)
    have made₁ : (d.makeDirectories p.parent).1 = .ok () := by rw [made]
    have reaches := (makeDirectories_ok_iff d p).mp made₁
    rw [save_of_made made₁]
    rw [made] at reaches ⊢
    refine (save_of_reaches reaches v).1.mpr ⟨free.1.of_adds fewer ?_, free.2.of_adds fewer reaches⟩
    rwa [parent_temporaryPath free]

/-- What was saved stands at the path. -/
theorem read_of_saved (saved : (save v p d).1 = .ok ()) :
    (save v p d).2.read p = .ok (saveBytes v) := by
  have settled := (takes_save v p d).settled (.refl _ d)
  rw [saved] at settled
  exact settled.read

/-- Where a file was saved it can be saved again. -/
theorem savable_of_saved (saved : (save v p d).1 = .ok ()) : Savable (save v p d).2 p := by
  by_cases made : (d.makeDirectories p.parent).1 = .ok ()
  · rw [save_of_made made] at saved ⊢
    have ⟨done, same⟩ := save_of_reaches ((makeDirectories_ok_iff d p).mp made) v
    exact ⟨_, .refl _, (same.replaceable_iff p).mpr (done.mp saved)⟩
  · exact absurd saved (save_of_not_made made v).1

theorem savable_iff_replaceable (h : d.Reaches p.parent) : Savable d p ↔ Replaceable d p :=
  (save_ok_iff_savable .null p d).symm.trans (save_of_reaches h .null).1

/-- Reading makes no difference to where a file can be saved. -/
theorem savable_load_iff {α : Type} (decode : Value → Option α) (p : Path) (time : String) (d : Disk) :
    Savable (load decode p time d).2 p ↔ Savable d p := by
  rcases load_snd decode p time d with ⟨⟨text, there, -⟩, -⟩ | ⟨-, same⟩
  · obtain ⟨c, read, -⟩ := readText_eq_ok_iff.mp there
    obtain ⟨q, place, -⟩ := read_eq_ok_iff.mp read
    have reaches := reaches_parent place
    have same := load_sameDirectories decode p time d
    rw [savable_iff_replaceable reaches, savable_iff_replaceable (reaches.keeps same.1)]
    exact same.replaceable_iff p
  · rw [same]

/-! ## Paths from the top down -/

/-- A path whose names lead down one after another, neither it nor any of them too long. -/
structure Descends (d : Disk) (p : Path) : Prop where
  nul : p.hasNul = false
  short : p.size ≤ d.room
  down : ∀ n ∈ p, Path.isIdle n = false ∧ n ≠ ".." ∧ n.utf8ByteSize ≤ Path.nameLimit

theorem walk_of_directories {names : List String}
    (down : ∀ n ∈ names, Path.isIdle n = false ∧ n ≠ ".." ∧ n.utf8ByteSize ≤ Path.nameLimit)
    (there : ∀ q, q <+: names → d.at? q = some .directory) : d.walk [] names = .ok names := by
  induction names using List.reverseRecOn with
  | nil => rfl
  | append_singleton names name ih =>
    obtain ⟨counts, up, fits⟩ := down name (by simp)
    have above := ih (fun n hn => down n (List.mem_append_left _ hn))
      fun q hq => there q (hq.trans (List.prefix_append _ _))
    rw [walk_append, above, Except.bind, walk_singleton]
    exact enter_eq_ok_iff.mpr (Or.inr (Or.inr ⟨counts, up, fits, there _ List.prefix_rfl, rfl⟩))

theorem Descends.place? {names : List String} (h : Descends d (names ++ [name]))
    (there : ∀ q, q <+: names → d.at? q = some .directory) :
    d.place? (names ++ [name]) = some (names ++ [name]) := by
  obtain ⟨counts, up, fits⟩ := h.down name (by simp)
  have walked := walk_of_directories (fun n hn => h.down n (List.mem_append_left _ hn)) there
  exact place?_eq_some_iff.mpr ⟨names, name, names, rfl, h.nul, h.short, walked, counts, up, fits, rfl⟩

def withDirectories (d : Disk) (places : List Place) : Disk :=
  { d with nodes := places.map (fun q => (q, .directory)) ++ d.nodes }

theorem at?_withDirectories (d : Disk) (places : List Place) (q : Place) :
    (d.withDirectories places).at? q = if q ∈ places then some .directory else d.at? q := by
  rw [at?, at?, withDirectories, List.lookup_append, lookup_map_pair]
  by_cases outer : isOuter q = true
  · simp [outer]
  · by_cases there : q ∈ places <;> simp [outer, there]

/-- Where no file stands at the places, directories are all that is new. -/
theorem adds_withDirectories {places : List Place} (passable : ∀ q ∈ places, d.fileAt q = none) :
    AddsDirectories d (d.withDirectories places) := by
  refine ⟨rfl, fun q => ?_⟩
  rw [at?_withDirectories]
  by_cases there : q ∈ places
  · have noFile := passable q there
    rw [if_pos there]
    rcases stands : d.at? q with _ | c | _
    · exact Or.inr ⟨rfl, rfl⟩
    · simp [fileAt, stands] at noFile
    · exact Or.inl rfl
  · rw [if_neg there]
    exact Or.inl rfl

theorem Descends.temporaryPath {names : List String} (h : Descends d (names ++ [name])) :
    temporaryPath (names ++ [name]) = names ++ [nameWithExtension name "json.tmp"] := by
  have counts : Path.plain (names ++ [name]) = names ++ [name] :=
    List.filter_eq_self.mpr fun n hn => by simp [(h.down n hn).1]
  have up : name ≠ ".." := (h.down name (by simp)).2.1
  simp [Disk.temporaryPath, withExtension, Path.parent, counts, up]

/-- A file can be saved below directories of which some or all are missing, as long as no file stands
in place of one of them and no directory at the name of the file or at the one beside it. -/
theorem savable_of_descends {names : List String} (h : Descends d (names ++ [name]))
    (beside : Descends d (names ++ [nameWithExtension name "json.tmp"]))
    (passable : ∀ q, q <+: names → d.fileAt q = none)
    (free : ∀ n ∈ [name, nameWithExtension name "json.tmp"], d.at? (names ++ [n]) ≠ some .directory) :
    Savable d (names ++ [name]) := by
  let d₁ := d.withDirectories names.inits
  have there : ∀ q, q <+: names → d₁.at? q = some .directory := fun q above => by
    rw [at?_withDirectories, if_pos ((List.mem_inits _ _).mpr above)]
  have adds : AddsDirectories d d₁ :=
    adds_withDirectories fun q above => passable q ((List.mem_inits _ _).mp above)
  have writable {n : String} (down : Descends d (names ++ [n]))
      (free : d.at? (names ++ [n]) ≠ some .directory) : Writable d₁ (names ++ [n]) := by
    have same : Descends d₁ (names ++ [n]) := ⟨down.nul, down.short, down.down⟩
    refine ⟨_, same.place? there, ?_⟩
    have below : ¬ names ++ [n] <+: names := fun h => absurd h.length_le (by simp)
    rwa [at?_withDirectories, if_neg (mt (List.mem_inits _ _).mp below)]
  refine ⟨d₁, adds, ?_, writable h (free name (by simp))⟩
  rw [h.temporaryPath]
  exact writable beside (free _ (by simp))

end BridgeKeeper.Disk
