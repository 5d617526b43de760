import BridgeKeeper.Proofs.Host.Recovery
import BridgeKeeper.Proofs.Json.Members

/-!
# Files of a newer version

The version of a file is looked at after the whole text was read as data of today. A file of a newer
version is refused, and left as it is, exactly where its other members are still data of today. Where
one of them is not, the file counts as one that does not decode: it is backed up and done without.
-/
namespace BridgeKeeper

open Json Disk

variable {ms : List (Option String × Value)} {v : UInt32} {d : Disk} {p : Path} {time text : String}

/-- The object names its version, once and by an integer. -/
def Announces (ms : List (Option String × Value)) (v : UInt32) : Prop :=
  ∃ n : Number, Once "version" (.number n) ms ∧ n.integer? = some (v.toNat : Int)

/-- But for its version, the object is data of today. -/
def Familiar {α : Type} (decode : Value → Option α) (ms : List (Option String × Value)) : Prop :=
  (decode (.object (without "version" ms))).isSome

theorem uint32?_of_integer? {n : Number} (h : n.integer? = some (v.toNat : Int)) :
    (Value.number n).uint32? = some v := by
  have whole : (Value.number n).int? = (Value.nat v.toNat).int? := by
    rw [Value.int?, h, Value.nat, Value.int, Value.int?, Number.integer?_ofInt]
  rw [← Value.uint32?_nat v, Value.uint32?, Value.uint32?, Value.intIn?, Value.intIn?, whole]

/-- A decoder of records with a version, which has no part in how the other fields are read. -/
structure Versioned {α : Type} (decode : Value → Option α) (put : UInt32 → α → α) : Prop where
  put_put (v w : UInt32) (a : α) : put v (put w a) = put v a
  reads : ∃ (names : List String) (others : Fields → Option α),
    (∀ f, others (f.without "version") = others f) ∧
    ∀ x, decode x = x.fields? names >>= fun f =>
      f.optional "version" Value.uint32? Settings.supportedVersion >>= fun v => (others f).map (put v)

namespace Versioned

variable {α : Type} {decode : Value → Option α} {put : UInt32 → α → α}

theorem decode_of_announces (h : Versioned decode put) (announces : Announces ms v) :
    decode (.object ms) = (decode (.object (without "version" ms))).map (put v) := by
  obtain ⟨names, others, apart, reads⟩ := h.reads
  obtain ⟨n, once, integer⟩ := announces
  rw [reads, reads, Value.fields?_without once]
  cases fields : (Value.object ms).fields? names with
  | none => rfl
  | some f =>
    have version := once.field fields
    simp only [Option.map_some, Option.bind_eq_bind, Option.bind_some, apart,
      Fields.optional_of_field version, uint32?_of_integer? integer, Fields.optional_left_out,
      Option.map_map, Function.comp_def, h.put_put]

/-- A familiar object is read, with its version. -/
theorem load_of_familiar (h : Versioned decode put) (there : d.readText p = .ok text)
    (object : Json.ofText? text = some (.object ms)) (announces : Announces ms v)
    (familiar : Familiar decode ms) (time : String) :
    ∃ a, Json.ofText? text >>= decode = some (put v a) ∧
      load decode p time d = (.ok (some (put v a)), d) := by
  obtain ⟨a, decoded⟩ := Option.isSome_iff_exists.mp familiar
  have whole : Json.ofText? text >>= decode = some (put v a) := by
    rw [object, Option.bind_eq_bind, Option.bind_some, h.decode_of_announces announces, decoded]
    rfl
  refine ⟨a, whole, ?_⟩
  rw [load, there]
  simp only [whole]

theorem undecoded_of_unfamiliar (h : Versioned decode put) (there : d.readText p = .ok text)
    (object : Json.ofText? text = some (.object ms)) (announces : Announces ms v)
    (unfamiliar : ¬ Familiar decode ms) : Undecoded decode d p := by
  refine ⟨text, there, ?_⟩
  rw [object, Option.bind_eq_bind, Option.bind_some, h.decode_of_announces announces,
    Option.not_isSome_iff_eq_none.mp unfamiliar]
  rfl

end Versioned

theorem Disk.load_of_undecoded {α : Type} {decode : Value → Option α} (h : Undecoded decode d p)
    (time : String) : load decode p time d = (.ok none, d.backUp p time) := by
  obtain ⟨text, there, undecoded⟩ := h
  rw [load, there]
  simp only [undecoded]

theorem Settings.versioned : Versioned ofJson? fun v s => { s with version := v } where
  put_put _ _ _ := rfl
  reads := by
    refine ⟨["version", "directory", "probe", "ssh"], fun f => do
      return {
        directory := ← f.optional "directory" DirectoryService.ofJson? {}
        probing := ← f.optional "probe" Probing.ofJson? {}
        sessions := ← f.optional "ssh" Sessions.ofJson? {} }, fun f => ?_, fun x => ?_⟩
    · simp (disch := decide) only [Fields.optional_without]
    · rw [ofJson?]
      simp only [Option.bind_eq_bind, Option.pure_def, Option.map_bind, Function.comp_def, Option.map_some]

theorem Host.Book.versioned : Versioned ofJson? fun v b => { b with version := v } where
  put_put _ _ _ := rfl
  reads := by
    refine ⟨["version", "hosts"], fun f => do
      return {
        version := Settings.supportedVersion
        hosts := ← f.optional "hosts" (Value.list? Stored.ofJson?) [] }, fun f => ?_, fun x => ?_⟩
    · simp (disch := decide) only [Fields.optional_without]
    · rw [ofJson?]
      simp only [Option.bind_eq_bind, Option.pure_def, Option.map_bind, Function.comp_def, Option.map_some]

/-! ## Settings and hosts -/

namespace Settings

/-- Settings of a newer version are refused where they are familiar. -/
theorem load_of_familiar (there : d.readText p = .ok text)
    (object : Json.ofText? text = some (.object ms)) (announces : Announces ms v)
    (newer : supportedVersion < v) (familiar : Familiar ofJson? ms) (time : String) :
    load p time d = (.error (.versionTooNew v supportedVersion), d) := by
  obtain ⟨s, -, read⟩ := versioned.load_of_familiar there object announces familiar time
  rw [load, read]
  simp only [checkVersion, newer, if_true]
  rfl

theorem load_of_unfamiliar (there : d.readText p = .ok text)
    (object : Json.ofText? text = some (.object ms)) (announces : Announces ms v)
    (unfamiliar : ¬ Familiar ofJson? ms) (time : String) :
    load p time d = (.ok {}, d.backUp p time) := by
  rw [load, load_of_undecoded (versioned.undecoded_of_unfamiliar there object announces unfamiliar)]

end Settings

namespace Host

theorem Book.records_empty (only : Bool) : empty.records only = [] := by
  simp [records, empty]

namespace Store

/-- Whatever is asked of the file is refused because of its version, and the disk stays as it is. -/
structure Refuses (p : Path) (time : String) (d : Disk) (v : UInt32) : Prop where
  hosts (only : Bool) :
    Store.hosts p time only d = (.error (.versionTooNew v Settings.supportedVersion), d)
  rules (nickname : String) :
    Store.rules p time nickname d = (.error (.versionTooNew v Settings.supportedVersion), d)
  upsert (s : Stored) :
    Store.upsert p time s d = (.error (.versionTooNew v Settings.supportedVersion), d)

/-- The file is backed up and done without: no hosts are read, and storing one replaces it. -/
structure Discards (p : Path) (time : String) (d : Disk) : Prop where
  hosts (only : Bool) : Store.hosts p time only d = (.ok [], d.backUp p time)
  rules (nickname : String) : Store.rules p time nickname d = (.ok [], d.backUp p time)
  upsert (s : Stored) :
    Store.upsert p time s d = Disk.save (Book.empty.upsert s).toJson p (d.backUp p time)

theorem refuses_of_familiar (there : d.readText p = .ok text)
    (object : Json.ofText? text = some (.object ms)) (announces : Announces ms v)
    (newer : Settings.supportedVersion < v) (familiar : Familiar Book.ofJson? ms) (time : String) :
    Refuses p time d v := by
  obtain ⟨b, whole, -⟩ := Book.versioned.load_of_familiar there object announces familiar time
  have refused := load_of_newer ⟨text, there, whole⟩ newer time
  refine ⟨fun only => ?_, fun nickname => ?_, fun s => ?_⟩
  · rw [hosts, refused]
    rfl
  · rw [rules, refused]
    rfl
  · rw [upsert, refused]

theorem discards_of_undecoded (undecoded : Undecoded Book.ofJson? d p) (time : String) :
    Discards p time d := by
  have nothing : load p time d = (.ok .empty, d.backUp p time) := by
    rw [load, load_of_undecoded undecoded]
  refine ⟨fun only => ?_, fun nickname => ?_, fun s => ?_⟩
  · rw [hosts, nothing]
    simp only [Except.map, Book.records_empty]
  · rw [rules, nothing]
    rfl
  · rw [upsert, nothing]

end Store

/-- A file of a newer version is refused exactly where its other members are data of today, and else
counts as one that does not decode. -/
theorem newer_refused_iff_familiar (there : d.readText p = .ok text)
    (object : Json.ofText? text = some (.object ms)) (announces : Announces ms v)
    (newer : Settings.supportedVersion < v) (time : String) :
    (Settings.load p time d = (.error (.versionTooNew v Settings.supportedVersion), d) ↔
      Familiar Settings.ofJson? ms) ∧
    (¬ Familiar Settings.ofJson? ms → Settings.load p time d = (.ok {}, d.backUp p time)) ∧
    (Store.Refuses p time d v ↔ Familiar Book.ofJson? ms) ∧
    (¬ Familiar Book.ofJson? ms → Store.Discards p time d) := by
  have discards (unfamiliar : ¬ Familiar Book.ofJson? ms) : Store.Discards p time d :=
    Store.discards_of_undecoded
      (Book.versioned.undecoded_of_unfamiliar there object announces unfamiliar) time
  refine ⟨⟨fun refused => ?_, fun familiar => ?_⟩, fun unfamiliar => ?_,
    ⟨fun refuses => ?_, fun familiar => ?_⟩, discards⟩
  · refine Classical.byContradiction fun unfamiliar => ?_
    rw [Settings.load_of_unfamiliar there object announces unfamiliar] at refused
    cases refused
  · exact Settings.load_of_familiar there object announces newer familiar time
  · exact Settings.load_of_unfamiliar there object announces unfamiliar time
  · refine Classical.byContradiction fun unfamiliar => ?_
    have refused := refuses.hosts false
    rw [(discards unfamiliar).hosts false] at refused
    cases refused
  · exact Store.refuses_of_familiar there object announces newer familiar time

/-- A newer file whose hosts are an object: as settings it is refused, as a store it is done
without. -/
theorem newer_refused_iff_familiar_reshaped :
    let reshaped := Value.record [("version", .nat 2), ("hosts", .record [])]
    let path := ["hosts.json"]
    let d : Disk := ⟨[(path, .file (Text.Utf8.encode reshaped.compact.toList))]⟩
    d.readText path = .ok reshaped.compact ∧ Settings.supportedVersion < 2 ∧
      Settings.load path "20260101_000000" d =
        (.error (.versionTooNew 2 Settings.supportedVersion), d) ∧
      Store.Discards path "20260101_000000" d := by
  intro reshaped path d
  let ms : List (Option String × Value) :=
    [(some "version", .nat 2), (some "hosts", .record [])]
  have there : d.readText path = .ok reshaped.compact := by
    refine readText_eq_ok_iff.mpr ⟨_, by rfl, ?_⟩
    rw [Text.Utf8.decode?_encode, Option.map_some, String.ofList_toList]
  have plain : reshaped.Plain := by
    refine .record fun m h => ?_
    rcases List.mem_cons.mp h with rfl | h
    · exact .int 2
    · rw [List.mem_singleton.mp h]
      exact .record fun m h => by cases h
  have object : Json.ofText? reshaped.compact = some (.object ms) := Json.ofText?_compact plain
  have announces : Announces ms 2 := ⟨.ofInt 2, by rfl, by rfl⟩
  have newer : Settings.supportedVersion < 2 := by decide
  have familiar : Familiar Settings.ofJson? ms := by rfl
  have unfamiliar : ¬ Familiar Book.ofJson? ms := by
    rw [Familiar]
    decide
  obtain ⟨settings, -, -, hosts⟩ :=
    newer_refused_iff_familiar there object announces newer "20260101_000000"
  exact ⟨there, newer, settings.mpr familiar, hosts unfamiliar⟩

end Host
end BridgeKeeper
