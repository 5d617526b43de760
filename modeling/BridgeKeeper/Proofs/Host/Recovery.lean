import BridgeKeeper.Host.Sharing
import BridgeKeeper.Proofs.Disk.Saving
import BridgeKeeper.Proofs.Host.Shelf

/-!
# What becomes of a file that does not decode

A store replaces a text that does not decode by a fresh book, and copies it to a backup first. The
copy is kept until another text is copied at the same time. It is all there is to the old text: where
it cannot be made, the text is replaced nevertheless.
-/
namespace BridgeKeeper.Host

open Disk

variable {d d' : Disk} {p : Path} {q : Place} {time time' : String} {content : Bytes}
  {n : Option String}

/-- What befalls the file of a store: others write it, or the store is called. -/
inductive Visit where
  | write (content : Bytes)
  | call (time : String) (c : StoreCall)

def Visit.apply (p : Path) (d : Disk) : Visit → Disk
  | write content => (d.after (d.write p content)).2
  | call time c => (c.alone p time d).2

def visited (p : Path) (d : Disk) (vs : List Visit) : Disk := vs.foldl (Visit.apply p) d

theorem visited_upsert (p : Path) (d : Disk) (vs : List Visit) (time : String) (s : Stored) :
    visited p d (vs ++ [.call time (.upsert s)]) = (Store.upsert p time s (visited p d vs)).2 := by
  rw [visited, List.foldl_append]
  rfl

/-! ## What visits leave alone -/

theorem save_spares (v : Json.Value) (d : Disk) (beside : Avoids n (temporaryPath p))
    (onto : Avoids n p) : Spares n d (Disk.save v p d).2 := by
  refine (takes_save v p d).spares ?_
  simp [saveSteps, SaveStep.touched, beside, onto]

/-- Once the file is read, a call leaves the other files alone. -/
theorem StoreCall.alone_spares (c : StoreCall) (d : Disk) (beside : Avoids n (temporaryPath p))
    (onto : Avoids n p) : Spares n (Disk.load Book.ofJson? p time d).2 (c.alone p time d).2 := by
  cases c with
  | upsert s =>
    change Spares n _ (Store.upsert p time s d).2
    rw [Store.upsert, Store.load_eq]
    cases Store.judge (Disk.load Book.ofJson? p time d).1 with
    | error e => exact .refl n _
    | ok b => exact save_spares _ _ beside onto
  | hosts only =>
    change Spares n _ (Store.hosts p time only d).2
    rw [Store.hosts_snd]
    exact .refl n _
  | rules nickname =>
    change Spares n _ (Store.rules p time nickname d).2
    rw [Store.rules_snd]
    exact .refl n _

/-- The files that a store writes are not its backups. -/
theorem avoids_written (place : d'.place? p = some q) (time : String) :
    Avoids (backupPath p time).getLast? (temporaryPath p) ∧
      Avoids (backupPath p time).getLast? p :=
  ⟨avoids_otherExtension place (tmp_ne_backup time), avoids_own place (by simp)⟩

theorem backupTime_inj (h : "json.backup." ++ time' = "json.backup." ++ time) : time' = time := by
  have := congrArg String.toList h
  rw [String.toList_append, String.toList_append] at this
  exact String.toList_injective (List.append_cancel_left this)

/-- A visit at another time leaves a backup alone. -/
theorem Visit.spares (place : d'.place? p = some q) {v : Visit} (other : ∀ c, v ≠ .call time c)
    (d : Disk) : Spares (backupPath p time).getLast? d (v.apply p d) := by
  obtain ⟨beside, onto⟩ := avoids_written place time
  cases v with
  | write content => exact after_write_spares d p content onto
  | call time' c =>
    have backup : Avoids (backupPath p time).getLast? (backupPath p time') :=
      avoids_otherExtension place fun same => other c (by rw [backupTime_inj same])
    exact (load_spares Book.ofJson? d backup).trans (c.alone_spares d beside onto)

/-! ## Backups -/

theorem read_of_write (written : d.write p content = .ok d') : d'.read p = .ok content := by
  obtain ⟨q, place, free, rfl⟩ := write_eq_ok_iff.mp written
  exact read_eq_ok_iff.mpr ⟨q, ((sameDirectories_put free).place? p).trans place,
    fileAt_put_same free⟩

/-- A backup that can be made holds the text that does not decode. -/
theorem read_backUp (there : d.read p = .ok content) (room : Writable d (backupPath p time)) :
    (d.backUp p time).read (backupPath p time) = .ok content := by
  obtain ⟨d₁, written⟩ : ∃ d₁, d.write (backupPath p time) content = .ok d₁ :=
    exists_write_iff.mpr room
  have made : d.backUp p time = d₁ := by
    simp [backUp, copy, there, written, bind, Except.bind]
  rw [made]
  exact read_of_write written

/-- A backup of the same text again changes nothing. -/
theorem read_backUp_again (there : d.read p = .ok content)
    (backup : d.read (backupPath p time) = .ok content) :
    (d.backUp p time).read (backupPath p time) = .ok content := by
  rcases backUp_cases d p time with same | ⟨c, read, written⟩
  · rwa [same]
  · rw [there, Except.ok.injEq] at read
    rw [read]
    exact read_of_write written

theorem load_undecoded (undecoded : Undecoded Book.ofJson? d p) (time : String) :
    (Disk.load Book.ofJson? p time d).2 = d.backUp p time := by
  rcases load_snd Book.ofJson? p time d with ⟨-, backed⟩ | ⟨decoded, -⟩
  · exact backed
  · exact absurd undecoded decoded

/-- A text that does not decode counts as an empty book, once it is backed up. -/
theorem Store.upsert_of_undecoded (undecoded : Undecoded Book.ofJson? d p) (time : String)
    (s : Stored) : Store.upsert p time s d =
      Disk.save (Book.empty.upsert s).toJson p (d.backUp p time) := by
  have loaded := load_undecoded undecoded time
  obtain ⟨text, there, fails⟩ := undecoded
  rw [Store.upsert, Store.load_eq, load_fst, loaded, there, judged, fails]
  rfl

/-- A host stored in place of a text that does not decode leaves the text in the backup. -/
theorem read_backup_upsert (there : d.read p = .ok content)
    (undecoded : Undecoded Book.ofJson? d p) (room : Writable d (backupPath p time)) (s : Stored) :
    (Store.upsert p time s d).2.read (backupPath p time) = .ok content := by
  obtain ⟨q, place, -⟩ := read_eq_ok_iff.mp there
  obtain ⟨beside, onto⟩ := avoids_written place time
  have made := read_backUp there room
  rw [← load_undecoded undecoded time] at made
  exact ((StoreCall.upsert s).alone_spares d beside onto).kept.read made

/-- A call that comes upon another text that does not decode, at a time at which one was backed up. -/
def Visit.Overwrites (p : Path) (time : String) (content : Bytes) (d : Disk) (v : Visit) : Prop :=
  (∃ c, v = .call time c) ∧ Undecoded Book.ofJson? d p ∧ d.read p ≠ .ok content

theorem Visit.keeps_backup (place : d'.place? p = some q) {v : Visit}
    (spares : ¬ v.Overwrites p time content d) (backup : d.read (backupPath p time) = .ok content) :
    (v.apply p d).read (backupPath p time) = .ok content := by
  by_cases now : ∃ c, v = .call time c
  · obtain ⟨c, rfl⟩ := now
    obtain ⟨beside, onto⟩ := avoids_written place time
    have loaded : (Disk.load Book.ofJson? p time d).2.read (backupPath p time) = .ok content := by
      rcases load_snd Book.ofJson? p time d with ⟨undecoded, backed⟩ | ⟨-, same⟩
      · have there : d.read p = .ok content :=
          Classical.byContradiction fun other => spares ⟨⟨c, rfl⟩, undecoded, other⟩
        rw [backed]
        exact read_backUp_again there backup
      · rwa [same]
    exact (c.alone_spares d beside onto).kept.read loaded
  · exact (Visit.spares place (fun c same => now ⟨c, same⟩) d).kept.read backup

theorem visited_keeps_backup (place : d'.place? p = some q) {vs : List Visit}
    (spares : ∀ before v after, vs = before ++ v :: after →
      ¬ v.Overwrites p time content (visited p d before))
    (backup : d.read (backupPath p time) = .ok content) :
    (visited p d vs).read (backupPath p time) = .ok content := by
  induction vs generalizing d with
  | nil => exact backup
  | cons v vs ih =>
    refine ih (fun before w after split => ?_)
      (Visit.keeps_backup place (spares [] v vs rfl) backup)
    exact spares (v :: before) w after (by rw [split]; rfl)

/-- When a host is stored in place of a text that does not decode, and there is room for its backup,
the backup holds that text. It still does after any visits, unless one of them backs up another text
at the same time. -/
theorem replaced_text_recoverable (there : d.read p = .ok content)
    (undecoded : Undecoded Book.ofJson? d p) (room : Writable d (backupPath p time)) (s : Stored)
    (later : List Visit)
    (spares : ∀ before v after, later = before ++ v :: after →
      ¬ v.Overwrites p time content (visited p (Store.upsert p time s d).2 before)) :
    (visited p (Store.upsert p time s d).2 later).read (backupPath p time) = .ok content := by
  obtain ⟨q, place, -⟩ := read_eq_ok_iff.mp there
  exact visited_keeps_backup place spares (read_backup_upsert there undecoded room s)

/-- One text that does not decode is backed up; a second later another one is, which others wrote. -/
theorem replaced_text_recoverable_twice :
    let d : Disk := ⟨[(["hosts.json"], .file [120])]⟩
    let path := ["hosts.json"]
    let host : Stored := ⟨⟨"box", "ssh", "alice", "10.0.0.5", 22, "", "", -1⟩, []⟩
    let later := [.write [121], .call "20260101_000001" (.upsert host)]
    d.read path = .ok [120] ∧ Undecoded Book.ofJson? d path ∧
      (visited path (Store.upsert path "20260101_000000" host d).2 later).read
        (backupPath path "20260101_000000") = .ok [120] := by
  intro d path host later
  have read : d.read path = .ok [120] := by rfl
  have undecoded : Undecoded Book.ofJson? d path := ⟨"x", by rfl, by rfl⟩
  have room : Writable d (backupPath path "20260101_000000") :=
    ⟨["hosts.json.backup.20260101_000000"], by rfl, by decide⟩
  refine ⟨read, undecoded, replaced_text_recoverable read undecoded room host later ?_⟩
  rintro before v after split ⟨⟨c, rfl⟩, -⟩
  have mem : Visit.call "20260101_000000" c ∈ later := by simp [split]
  simp [later] at mem

/-! ## Names too long for a backup -/

def aside : String := "a-directory-that-is-left-right-away"

/-- Into the directory and back, again and again. -/
def detour (n : Nat) : Path := (List.replicate n [aside, ".."]).flatten

theorem walk_detour (there : d.at? [aside] = some .directory) (n : Nat) :
    d.walk [] (detour n) = .ok [] := by
  induction n with
  | zero => rfl
  | succ n ih =>
    have into : d.enter [] aside = .ok [aside] :=
      enter_eq_ok_iff.mpr (Or.inr (Or.inr ⟨by decide, by decide, by decide, there, rfl⟩))
    have back : d.enter [aside] ".." = .ok [] :=
      enter_eq_ok_iff.mpr (Or.inr (Or.inl ⟨by decide, rfl, by decide⟩))
    change d.walk [] (aside :: ".." :: detour n) = _
    rw [walk_cons, into, Except.bind, walk_cons, back]
    exact ih

theorem size_detour (n : Nat) (name : String) :
    Path.size (detour n ++ [name]) = 39 * n + name.utf8ByteSize := by
  have sum : (detour n ++ [name]).foldr (fun name n => name.utf8ByteSize + 1 + n) 0 =
      39 * n + (name.utf8ByteSize + 1) := by
    induction n with
    | zero => simp [detour]
    | succ n ih =>
      change aside.utf8ByteSize + 1 +
        ("..".utf8ByteSize + 1 + List.foldr _ 0 (detour n ++ [name])) = _
      rw [ih, show aside.utf8ByteSize = 35 by decide, show "..".utf8ByteSize = 2 by decide]
      omega
  rw [Path.size, sum]
  omega

theorem plain_detour (n : Nat) (name : String) (counts : Path.isIdle name = false) :
    Path.plain (detour n ++ [name]) = detour n ++ [name] := by
  refine List.filter_eq_self.mpr fun x mem => ?_
  rcases List.mem_append.mp mem with mem | mem
  · obtain ⟨l, twice, mem⟩ := List.mem_flatten.mp mem
    rw [List.eq_of_mem_replicate twice] at mem
    simp only [List.mem_cons, List.not_mem_nil, or_false] at mem
    rcases mem with rfl | rfl <;> decide
  · rw [List.mem_singleton.mp mem, counts]
    rfl

theorem withExtension_detour (n : Nat) (e : String) :
    withExtension (detour n ++ ["hosts.json"]) e = detour n ++ ["hosts." ++ e] := by
  have plain := plain_detour n "hosts.json" (by decide)
  have name : nameWithExtension "hosts.json" e = "hosts." ++ e := by
    refine String.toList_injective ?_
    rw [nameWithExtension, show stem "hosts.json".toList = "hosts".toList by decide]
    simp
  simp [withExtension, Path.parent, plain, name]

theorem place?_detour (there : d.at? [aside] = some .directory) {n : Nat} {name : String}
    (short : 39 * n + name.utf8ByteSize ≤ d.room) (clean : Path.hasNul [name] = false)
    (counts : Path.isIdle name = false) (up : name ≠ "..")
    (fits : name.utf8ByteSize ≤ Path.nameLimit) :
    d.place? (detour n ++ [name]) = some [name] := by
  have clean' : Path.hasNul (detour n ++ [name]) = false := by
    rw [Path.hasNul, List.any_append, Bool.or_eq_false_iff]
    refine ⟨?_, clean⟩
    rw [detour, List.any_flatten, List.any_replicate]
    split <;> decide
  exact place?_eq_some_iff.mpr ⟨detour n, name, [], rfl, clean', by rwa [size_detour],
    walk_detour there n, counts, up, fits, rfl⟩

/-- A directory beside a file of hosts that does not decode. -/
def broken : Disk := ⟨[([aside], .directory), (["hosts.json"], .file [120])]⟩

def box : Stored := ⟨⟨"box", "ssh", "alice", "10.0.0.5", 22, "", "", -1⟩, []⟩

theorem holds_only {x : Place} (there : broken.fileAt x = some content) : x = ["hosts.json"] := by
  have there := fileAt_eq_some_iff.mp there
  rw [at?] at there
  split at there
  · cases there
  · by_cases first : x = [aside]
    · rw [first] at there
      cases there
    · by_cases second : x = ["hosts.json"]
      · exact second
      · have first := beq_eq_false_iff_ne.mpr first
        have second := beq_eq_false_iff_ne.mpr second
        simp [broken, List.lookup_cons, first, second] at there

/-- A path at which a file can be replaced, but whose backup has a name too long for the system. -/
theorem lost_without_backup :
    let path := detour 104 ++ ["hosts.json"]
    broken.read path = .ok [120] ∧ Undecoded Book.ofJson? broken path ∧
      (Store.upsert path "20260101_000000" box broken).1 = .ok () ∧
      ∀ time, (Store.upsert path "20260101_000000" box broken).2.read (backupPath path time) ≠
        .ok [120] := by
  intro path
  have there : broken.at? [aside] = some .directory := by rfl
  have place : broken.place? path = some ["hosts.json"] :=
    place?_detour there (by decide) (by decide) (by decide) (by decide) (by decide)
  have beside : broken.place? (temporaryPath path) = some ["hosts.json.tmp"] := by
    rw [temporaryPath, withExtension_detour]
    exact place?_detour there (by decide) (by decide) (by decide) (by decide) (by decide)
  have read : broken.read path = .ok [120] := read_eq_ok_iff.mpr ⟨_, place, by rfl⟩
  have undecoded : Undecoded Book.ofJson? broken path :=
    ⟨"x", readText_eq_ok_iff.mpr ⟨_, read, by rfl⟩, by rfl⟩
  have unkept : broken.backUp path "20260101_000000" = broken := by
    rcases backUp_cases broken path "20260101_000000" with same | ⟨c, -, written⟩
    · exact same
    · obtain ⟨q, somewhere, -⟩ := write_eq_ok_iff.mp written
      obtain ⟨_, _, _, split, -, short, -⟩ := place?_eq_some_iff.mp somewhere
      rw [backupPath, withExtension_detour, size_detour] at short
      exact absurd short (by decide)
  have stored : Store.upsert path "20260101_000000" box broken =
      Disk.save (Book.empty.upsert box).toJson path broken := by
    rw [Store.upsert_of_undecoded undecoded, unkept]
  refine ⟨read, undecoded, ?_, fun time found => ?_⟩
  · rw [stored]
    refine (save_of_reaches (reaches_parent place) _).1.mpr ⟨⟨_, beside, by decide⟩, _, place, ?_⟩
    decide
  · rw [stored] at found
    obtain ⟨beside, onto⟩ := avoids_written place time
    have spares := save_spares (Book.empty.upsert box).toJson broken beside onto
    obtain ⟨x, somewhere, holds⟩ := read_eq_ok_iff.mp found
    obtain ⟨_, last, last', -, -⟩ := getLast?_of_place? somewhere
    rw [spares.fileAt (last.trans last'.symm)] at holds
    rw [holds_only holds] at last
    exact onto broken _ place (last.trans last'.symm)

/-- Two texts that do not decode, within one second. -/
theorem lost_to_next_backup :
    let path := ["hosts.json"]
    let stored := Store.upsert path "20260101_000000" box broken
    stored.1 = .ok () ∧
      stored.2.read (backupPath path "20260101_000000") = .ok [120] ∧
      (visited path stored.2 [.write [121], .call "20260101_000000" (.upsert box)]).read
        (backupPath path "20260101_000000") = .ok [121] := by
  intro path stored
  have undecoded : Undecoded Book.ofJson? broken path := ⟨"x", by rfl, by rfl⟩
  have room : Writable broken (backupPath path "20260101_000000") :=
    ⟨["hosts.json.backup.20260101_000000"], by rfl, by decide⟩
  have reaches : Reaches (broken.backUp path "20260101_000000") (Path.parent path) :=
    ⟨by decide, by decide, [], by rfl⟩
  have free : Replaceable (broken.backUp path "20260101_000000") path :=
    ⟨⟨["hosts.json.tmp"], by rfl, by decide⟩, ["hosts.json"], by rfl, by decide⟩
  refine ⟨?_, read_backup_upsert (by rfl) undecoded room box, ?_⟩
  · change (Store.upsert path "20260101_000000" box broken).1 = .ok ()
    rw [Store.upsert_of_undecoded undecoded]
    exact (save_of_reaches reaches _).1.mpr free
  · have next := visited_upsert path stored.2 [.write [121]] "20260101_000000" box
    rw [List.singleton_append] at next
    have read : (visited path stored.2 [.write [121]]).read path = .ok [121] :=
      read_eq_ok_iff.mpr ⟨path, by decide +kernel, by decide +kernel⟩
    rw [next]
    refine read_backup_upsert read ⟨"y", readText_eq_ok_iff.mpr ⟨_, read, by rfl⟩, by rfl⟩ ?_ box
    exact ⟨["hosts.json.backup.20260101_000000"], by decide +kernel, by decide +kernel⟩

/-- Where no backup can be made, or another follows within the second, the text is lost for good. -/
theorem replaced_text_lost :
    (let path := detour 104 ++ ["hosts.json"]
    broken.read path = .ok [120] ∧ Undecoded Book.ofJson? broken path ∧
      (Store.upsert path "20260101_000000" box broken).1 = .ok () ∧
      ∀ time, (Store.upsert path "20260101_000000" box broken).2.read (backupPath path time) ≠
        .ok [120]) ∧
    let path := ["hosts.json"]
    let stored := Store.upsert path "20260101_000000" box broken
    stored.1 = .ok () ∧
      stored.2.read (backupPath path "20260101_000000") = .ok [120] ∧
      (visited path stored.2 [.write [121], .call "20260101_000000" (.upsert box)]).read
        (backupPath path "20260101_000000") = .ok [121] :=
  ⟨lost_without_backup, lost_to_next_backup⟩

end BridgeKeeper.Host
