import BridgeKeeper.Json.Reader
import BridgeKeeper.Proofs.Json.Overlay
import BridgeKeeper.Settings
import Mathlib.Logic.Relation

/-!
# Written settings are an overlay of the defaults

Settings may be written in part, in any order and among members that are not known: what is not given
has its default, at the top as well as within each of the three parts. Only the keys have to be texts.
-/
namespace BridgeKeeper.Settings

open Json

variable {ms ms' : Members}

/-! ## What is written -/

def DirectoryService.shape : Shape DirectoryService where
  fields := [
    .text "base_url" baseUrl,
    .number "timeout_secs" timeoutSecs UInt64.toNat UInt64.toNat_inj.mp]
  default := {}
  distinct := by decide
  ext {s s'} h := by
    simp only [List.forall_mem_cons] at h
    obtain ⟨url, timeout, -⟩ := h
    cases s
    cases s'
    cases url
    cases timeout
    rfl

def Probing.shape : Shape Probing where
  fields := [
    .number "default_port" defaultPort UInt16.toNat UInt16.toNat_inj.mp,
    .number "period_secs" periodSecs UInt64.toNat UInt64.toNat_inj.mp,
    .number "initial_delay_ms" initialDelayMs UInt64.toNat UInt64.toNat_inj.mp]
  default := {}
  distinct := by decide
  ext {s s'} h := by
    simp only [List.forall_mem_cons] at h
    obtain ⟨port, period, delay, -⟩ := h
    cases s
    cases s'
    cases port
    cases period
    cases delay
    rfl

def Sessions.shape : Shape Sessions where
  fields := [
    .number "connect_timeout_secs" connectTimeoutSecs UInt64.toNat UInt64.toNat_inj.mp,
    .number "keepalive_interval_secs" keepaliveIntervalSecs UInt64.toNat UInt64.toNat_inj.mp,
    .number "keepalive_max" keepaliveMax UInt64.toNat UInt64.toNat_inj.mp]
  default := {}
  distinct := by decide
  ext {s s'} h := by
    simp only [List.forall_mem_cons] at h
    obtain ⟨timeout, interval, most, -⟩ := h
    cases s
    cases s'
    cases timeout
    cases interval
    cases most
    rfl

def shape : Shape Settings where
  fields := [
    .number "version" version UInt32.toNat UInt32.toNat_inj.mp,
    .part "directory" DirectoryService.shape directory,
    .part "probe" Probing.shape probing,
    .part "ssh" Sessions.shape sessions]
  default := {}
  distinct := by decide
  ext {s s'} h := by
    simp only [List.forall_mem_cons] at h
    obtain ⟨version, directory, probing, sessions, -⟩ := h
    cases s
    cases s'
    cases version
    cases directory
    cases probing
    cases sessions
    rfl

/-- The keys of an object, and those within each of its parts, are texts. -/
def Legible (ms : Members) : Prop :=
  Spelled ms ∧ ∀ name ∈ ["directory", "probe", "ssh"], ∀ ds, (some name, .object ds) ∈ ms → Spelled ds

/-! ## How it is read -/

theorem DirectoryService.ofJson?_of_overlay {s : DirectoryService} (h : shape.Overlay ms s)
    (spelled : Spelled ms) : ofJson? (.object ms) = some s := by
  obtain ⟨ks, keyed⟩ := spelled_iff.mp spelled
  have fields := h.fields? keyed ["base_url", "timeout_secs"] rfl
  simp only [Shape.Overlay, shape, List.forall_mem_cons] at h
  obtain ⟨url, timeout, -⟩ := h
  have url := url.optional keyed Value.text? fun _ s _ is => by rw [is]; rfl
  have timeout := timeout.optional keyed Value.uint64? fun _ x _ is => is ▸ Value.uint64?_nat x
  exact Option.bind_eq_some_iff.mpr ⟨_, fields, Option.bind_eq_some_iff.mpr ⟨_, url,
    Option.bind_eq_some_iff.mpr ⟨_, timeout, rfl⟩⟩⟩

theorem Probing.ofJson?_of_overlay {s : Probing} (h : shape.Overlay ms s) (spelled : Spelled ms) :
    ofJson? (.object ms) = some s := by
  obtain ⟨ks, keyed⟩ := spelled_iff.mp spelled
  have fields := h.fields? keyed ["default_port", "period_secs", "initial_delay_ms"] rfl
  simp only [Shape.Overlay, shape, List.forall_mem_cons] at h
  obtain ⟨port, period, delay, -⟩ := h
  have port := port.optional keyed Value.uint16? fun _ x _ is => is ▸ Value.uint16?_nat x
  have period := period.optional keyed Value.uint64? fun _ x _ is => is ▸ Value.uint64?_nat x
  have delay := delay.optional keyed Value.uint64? fun _ x _ is => is ▸ Value.uint64?_nat x
  exact Option.bind_eq_some_iff.mpr ⟨_, fields, Option.bind_eq_some_iff.mpr ⟨_, port,
    Option.bind_eq_some_iff.mpr ⟨_, period, Option.bind_eq_some_iff.mpr ⟨_, delay, rfl⟩⟩⟩⟩

theorem Sessions.ofJson?_of_overlay {s : Sessions} (h : shape.Overlay ms s) (spelled : Spelled ms) :
    ofJson? (.object ms) = some s := by
  obtain ⟨ks, keyed⟩ := spelled_iff.mp spelled
  have fields := h.fields? keyed
    ["connect_timeout_secs", "keepalive_interval_secs", "keepalive_max"] rfl
  simp only [Shape.Overlay, shape, List.forall_mem_cons] at h
  obtain ⟨timeout, interval, most, -⟩ := h
  have timeout := timeout.optional keyed Value.uint64? fun _ x _ is => is ▸ Value.uint64?_nat x
  have interval := interval.optional keyed Value.uint64? fun _ x _ is => is ▸ Value.uint64?_nat x
  have most := most.optional keyed Value.uint64? fun _ x _ is => is ▸ Value.uint64?_nat x
  exact Option.bind_eq_some_iff.mpr ⟨_, fields, Option.bind_eq_some_iff.mpr ⟨_, timeout,
    Option.bind_eq_some_iff.mpr ⟨_, interval, Option.bind_eq_some_iff.mpr ⟨_, most, rfl⟩⟩⟩⟩

theorem ofJson?_of_overlay {s : Settings} (h : shape.Overlay ms s) (legible : Legible ms) :
    ofJson? (.object ms) = some s := by
  obtain ⟨spelled, within⟩ := legible
  obtain ⟨ks, keyed⟩ := spelled_iff.mp spelled
  have fields := h.fields? keyed ["version", "directory", "probe", "ssh"] rfl
  simp only [Shape.Overlay, shape, List.forall_mem_cons] at h
  obtain ⟨version, directory, probing, sessions, -⟩ := h
  have version := version.optional keyed Value.uint32? fun _ x _ is => is ▸ Value.uint32?_nat x
  have directory := directory.optional keyed DirectoryService.ofJson?
    fun _ _ there ⟨ds, is, part⟩ => by
      rw [is] at there ⊢
      exact DirectoryService.ofJson?_of_overlay part (within _ (by decide) ds there)
  have probing := probing.optional keyed Probing.ofJson? fun _ _ there ⟨ds, is, part⟩ => by
    rw [is] at there ⊢
    exact Probing.ofJson?_of_overlay part (within _ (by decide) ds there)
  have sessions := sessions.optional keyed Sessions.ofJson? fun _ _ there ⟨ds, is, part⟩ => by
    rw [is] at there ⊢
    exact Sessions.ofJson?_of_overlay part (within _ (by decide) ds there)
  exact Option.bind_eq_some_iff.mpr ⟨_, fields, Option.bind_eq_some_iff.mpr ⟨_, version,
    Option.bind_eq_some_iff.mpr ⟨_, directory, Option.bind_eq_some_iff.mpr ⟨_, probing,
      Option.bind_eq_some_iff.mpr ⟨_, sessions, rfl⟩⟩⟩⟩⟩

theorem legible_of_ofJson? {s t : Settings} (h : shape.Overlay ms s)
    (read : ofJson? (.object ms) = some t) : Legible ms := by
  obtain ⟨f, fields, read⟩ := Option.bind_eq_some_iff.mp read
  obtain ⟨version, -, read⟩ := Option.bind_eq_some_iff.mp read
  obtain ⟨directory, readDirectory, read⟩ := Option.bind_eq_some_iff.mp read
  obtain ⟨probing, readProbing, read⟩ := Option.bind_eq_some_iff.mp read
  obtain ⟨sessions, readSessions, -⟩ := Option.bind_eq_some_iff.mp read
  simp only [Shape.Overlay, shape, List.forall_mem_cons] at h
  obtain ⟨-, directoryGiven, probingGiven, sessionsGiven, -⟩ := h
  have spelled {α : Type} {part : Fields → Option α} {names : List String} (ds : Members) (t : α)
      (read : (Value.object ds).fields? names >>= part = some t) : Spelled ds := by
    obtain ⟨f, fields, -⟩ := Option.bind_eq_some_iff.mp read
    exact spelled_of_fields? fields
  refine ⟨spelled_of_fields? fields, ?_⟩
  simp only [List.forall_mem_cons, List.not_mem_nil, false_imp_iff, implies_true, and_true]
  exact ⟨fun ds there => directoryGiven.spelled_part fields readDirectory spelled there,
    fun ds there => probingGiven.spelled_part fields readProbing spelled there,
    fun ds there => sessionsGiven.spelled_part fields readSessions spelled there⟩

/-- Written settings are read exactly where their keys are texts, and then as the defaults overlaid with
what is given; and so they are after any changes that make no difference. -/
theorem overlay_read_iff_legible {s : Settings} (overlay : shape.Overlay ms s) :
    (ofJson? (.object ms) = some s ↔ Legible ms) ∧ (ofJson? (.object ms) = none ↔ ¬ Legible ms) ∧
    ∀ ms', Relation.ReflTransGen shape.Edit ms ms' → Legible ms' → ofJson? (.object ms') = some s := by
  refine ⟨⟨legible_of_ofJson? overlay, ofJson?_of_overlay overlay⟩, ⟨fun refused legible => ?_,
    fun illegible => ?_⟩, fun ms' edited legible => ?_⟩
  · rw [ofJson?_of_overlay overlay legible] at refused
    cases refused
  · cases read : ofJson? (.object ms) with
    | none => rfl
    | some t => exact absurd (legible_of_ofJson? overlay read) illegible
  · have same : shape.Overlay ms' s := by
      clear legible
      induction edited with
      | refl => exact overlay
      | tail _ edit ih => exact edit.overlay ih
    exact ofJson?_of_overlay same legible

/-- A probing period alone, given among members that are not known; then a default is left out and the
members change places. -/
theorem overlay_read_iff_legible_partial :
    let ms : Members := [(some "note", .string none), (some "version", .nat 1),
      (some "probe", .object [(some "x", .null), (some "period_secs", .nat 5)])]
    let ms' : Members := [(some "probe", .object [(some "period_secs", .nat 5), (some "x", .null)]),
      (some "note", .string none)]
    let s : Settings := { probing := { periodSecs := 5 } }
    shape.Overlay ms s ∧ ofJson? (.object ms) = some s ∧
      Relation.ReflTransGen shape.Edit ms ms' ∧ ofJson? (.object ms') = some s := by
  intro ms ms' s
  have probing : Probing.shape.Overlay [(some "x", .null), (some "period_secs", .nat 5)]
      { periodSecs := 5 } := by
    simp only [Shape.Overlay, Probing.shape, List.forall_mem_cons, List.not_mem_nil, false_imp_iff,
      implies_true, and_true]
    exact ⟨.absent (by decide), .once (v := .nat 5) (by rfl) (by rfl), .absent (by decide)⟩
  have overlay : shape.Overlay ms s := by
    simp only [Shape.Overlay, shape, List.forall_mem_cons, List.not_mem_nil, false_imp_iff,
      implies_true, and_true]
    exact ⟨.once (v := .nat 1) (by rfl) (by rfl), .absent (by decide),
      .once (by rfl) ⟨_, rfl, probing⟩, .absent (by decide)⟩
  have legible : Legible ms ∧ Legible ms' := by
    constructor
    · refine ⟨spelled_iff.mpr ⟨_, by rfl⟩, fun name _ ds there => ?_⟩
      simp only [ms, List.mem_cons, List.not_mem_nil, or_false, Prod.mk.injEq] at there
      rcases there with ⟨-, same⟩ | ⟨-, same⟩ | ⟨-, same⟩ <;> cases same
      exact spelled_iff.mpr ⟨_, by rfl⟩
    · refine ⟨spelled_iff.mpr ⟨_, by rfl⟩, fun name _ ds there => ?_⟩
      simp only [ms', List.mem_cons, List.not_mem_nil, or_false, Prod.mk.injEq] at there
      rcases there with ⟨-, same⟩ | ⟨-, same⟩ <;> cases same
      exact spelled_iff.mpr ⟨_, by rfl⟩
  have edits : Relation.ReflTransGen shape.Edit ms ms' := by
    let note : Option String × Value := (some "note", .string none)
    let version : Option String × Value := (some "version", .nat 1)
    let probe : Option String × Value :=
      (some "probe", .object [(some "x", .null), (some "period_secs", .nat 5)])
    have part : .part "probe" Probing.shape Settings.probing ∈ shape.fields := by simp [shape]
    have turned : shape.Edit ([note] ++ [version, probe]) ([version, probe] ++ [note]) :=
      .reordered List.perm_append_comm
    have dropped : shape.Edit [version, probe, note] [probe, note] := by
      refine .dropped ?_
      simp only [shape, List.forall_mem_cons, List.not_mem_nil, false_imp_iff, implies_true,
        and_true]
      exact ⟨fun _ => rfl, fun own => absurd own (by decide), fun own => absurd own (by decide),
        fun own => absurd own (by decide)⟩
    exact .head turned (.head dropped (.single (.within part (.reordered (.swap _ _ _)))))
  obtain ⟨read, -, edited⟩ := overlay_read_iff_legible overlay
  exact ⟨overlay, read.mpr legible.1, edits, edited ms' edits legible.2⟩

/-- A key that is no text: a surrogate without its partner. -/
theorem lone_surrogate_key_refused :
    ∃ ms, ofText? "\x7b\"\\ud800\":null\x7d" = some (.object ms) ∧ shape.Overlay ms {} ∧
      ofJson? (.object ms) = none := by
  let behind : Input := [some ':', some 'n', some 'u', some 'l', some 'l', some '\x7d']
  let quoted : Input := some '"' :: some '\\' :: some 'u' :: some 'd' :: some '8' :: some '0' ::
    some '0' :: some '"' :: behind
  have text : "\x7b\"\\ud800\":null\x7d".toList.map some = some '\x7b' :: quoted := by rfl
  have key : readString quoted.tail = some (none, behind) := by
    have unit : hexUnit? 'd' '8' '0' '0' = some 0xD800 := by rfl
    simp only [quoted, List.tail_cons, readString, readPieces, unit]
    rfl
  have members (n : Nat) : readMembers (n + 2) quoted = some ([(none, .null)], []) := by
    rw [readMembers]
    exact Option.bind_eq_some_iff.mpr ⟨_, key, rfl⟩
  have object (n : Nat) : readValue (n + 3) (some '\x7b' :: quoted) =
      some (.object [(none, .null)], []) := by
    rw [readValue]
    exact Option.map_eq_some_iff.mpr ⟨_, members n, rfl⟩
  refine ⟨[(none, .null)], ?_, Shape.overlay_default (by simp), by rfl⟩
  rw [ofText?, text, read?]
  -- The text has 15 characters, for which 32 calls are allowed.
  exact Option.bind_eq_some_iff.mpr ⟨_, object 29, rfl⟩

end BridgeKeeper.Settings
