import BridgeKeeper.Proofs.Disk.Savable
import BridgeKeeper.Proofs.Json.Record
import BridgeKeeper.Proofs.Json.RoundTrip
import BridgeKeeper.Settings

/-!
# Saved settings read back

The bytes that are saved for settings decode to those settings, whatever the texts and numbers in
them. So settings that were saved are loaded as they were, unless their version is refused, and to
save them once more writes the same bytes.
-/
namespace BridgeKeeper.Settings

open Disk Json

theorem DirectoryService.ofJson?_toJson (s : DirectoryService) : ofJson? s.toJson = some s := by
  have distinct : ["base_url", "timeout_secs"].Nodup := by decide
  rw [ofJson?, toJson, Value.fields?_record distinct (by rfl)]
  simp (disch := decide) only [Fields.optional, List.lookup_cons_self, lookup_tail, Value.text?,
    Value.text, Value.uint64?_nat, Option.bind_eq_bind, Option.bind_some, Option.pure_def]

theorem Probing.ofJson?_toJson (s : Probing) : ofJson? s.toJson = some s := by
  have distinct : ["default_port", "period_secs", "initial_delay_ms"].Nodup := by decide
  rw [ofJson?, toJson, Value.fields?_record distinct (by rfl)]
  simp (disch := decide) only [Fields.optional, List.lookup_cons_self, lookup_tail,
    Value.uint16?_nat, Value.uint64?_nat, Option.bind_eq_bind, Option.bind_some, Option.pure_def]

theorem Sessions.ofJson?_toJson (s : Sessions) : ofJson? s.toJson = some s := by
  have distinct : ["connect_timeout_secs", "keepalive_interval_secs", "keepalive_max"].Nodup := by
    decide
  rw [ofJson?, toJson, Value.fields?_record distinct (by rfl)]
  simp (disch := decide) only [Fields.optional, List.lookup_cons_self, lookup_tail,
    Value.uint64?_nat, Option.bind_eq_bind, Option.bind_some, Option.pure_def]

theorem ofJson?_toJson (s : Settings) : ofJson? s.toJson = some s := by
  have distinct : ["version", "directory", "probe", "ssh"].Nodup := by decide
  rw [ofJson?, toJson, Value.fields?_record distinct (by rfl)]
  simp (disch := decide) only [Fields.optional, List.lookup_cons_self, lookup_tail,
    Value.uint32?_nat, DirectoryService.ofJson?_toJson, Probing.ofJson?_toJson,
    Sessions.ofJson?_toJson, Option.bind_eq_bind, Option.bind_some, Option.pure_def]

theorem plain_toJson (s : Settings) : s.toJson.Plain := by
  have directory : s.directory.toJson.Plain :=
    .record (by simp [Value.Plain.text, Value.Plain.int, Value.nat])
  have probing : s.probing.toJson.Plain := .record (by simp [Value.Plain.int, Value.nat])
  have sessions : s.sessions.toJson.Plain := .record (by simp [Value.Plain.int, Value.nat])
  exact .record (by simp [Value.Plain.int, Value.nat, directory, probing, sessions])

/-- The text of settings denotes those settings. -/
theorem ofText?_pretty (s : Settings) : ofText? s.toJson.pretty >>= ofJson? = some s := by
  rw [Json.ofText?_pretty s.plain_toJson]
  exact s.ofJson?_toJson

/-! ## Saving and loading -/

variable {s : Settings} {p : Path} {d : Disk}

theorem load_of_saved (h : d.read p = .ok (saveBytes s.toJson)) (time : String) : load p time d =
    (if s.version ≤ 1 then .ok s else .error (.versionTooNew s.version 1), d) := by
  have read : Disk.load ofJson? p time d = (.ok (some s), d) := by
    rw [Disk.load, readText_of_saved h]
    simp only [s.ofText?_pretty]
  rw [load, read]
  by_cases known : s.version ≤ 1
  · have understood : ¬ supportedVersion < s.version := UInt32.not_lt.mpr known
    simp only [checkVersion, if_neg understood, if_pos known]
    rfl
  · have newer : supportedVersion < s.version := UInt32.not_le.mp known
    simp only [checkVersion, if_pos newer, if_neg known]
    rfl

/-- Settings are saved wherever a file can be, and are loaded as they were saved, unless their version
is too new. Saving what was loaded, there or elsewhere, writes the same bytes. -/
theorem save_then_load (s : Settings) (p : Path) (d : Disk) :
    ((s.save p d).1 = .ok () ↔ d.Savable p) ∧
      (d.Savable p → ∀ time,
        let d' := (s.save p d).2
        load p time d' =
            (if s.version ≤ 1 then .ok s else .error (.versionTooNew s.version 1), d') ∧
          d'.read p = .ok (saveBytes s.toJson) ∧ d'.Savable p ∧
          ∀ t, (load p time d').1 = .ok t → ∀ q e, e.Savable q →
            (t.save q e).1 = .ok () ∧ (t.save q e).2.read q = d'.read p) := by
  have done (t : Settings) (q : Path) (e : Disk) : (t.save q e).1 = .ok () ↔ e.Savable q :=
    save_ok_iff_savable t.toJson q e
  refine ⟨done s p d, fun savable time => ?_⟩
  have saved := (done s p d).mpr savable
  have there : (s.save p d).2.read p = .ok (saveBytes s.toJson) := read_of_saved saved
  have loaded := load_of_saved there time
  refine ⟨loaded, there, savable_of_saved saved, fun t same q e free => ?_⟩
  have again := (done t q e).mpr free
  have unchanged : t = s := by
    rw [loaded] at same
    split at same
    · cases same
      rfl
    · cases same
  refine ⟨again, ?_⟩
  rw [there, ← unchanged]
  exact read_of_saved again

/-- Nothing stands on the disk yet, the text needs every kind of escape, and numbers are at their
limits. -/
theorem save_then_load_escaped :
    let s : Settings := {
      directory := ⟨"\"\\\n\x01😀", 18446744073709551615⟩, probing := ⟨65535, 0, 1⟩ }
    let p : Path := ["nested", "config.json"]
    Disk.empty.Savable p ∧ load p "0" (s.save p Disk.empty).2 = (.ok s, (s.save p Disk.empty).2) := by
  intro s p
  have noFile (q : Place) : Disk.empty.fileAt q = none := by
    cases outer : isOuter q <;> simp [fileAt, at?, outer, Disk.empty]
  have savable : Disk.empty.Savable (["nested"] ++ ["config.json"]) :=
    savable_of_descends ⟨by decide, by decide, by decide⟩ ⟨by decide, by decide, by decide⟩
      (fun q _ => noFile q) (by decide)
  exact ⟨savable, ((save_then_load s p Disk.empty).2 savable "0").1⟩

end BridgeKeeper.Settings
