import BridgeKeeper.Host.Store
import BridgeKeeper.Proofs.Disk.Loading
import BridgeKeeper.Proofs.Json.Record
import BridgeKeeper.Proofs.Json.RoundTrip
import BridgeKeeper.Proofs.Text.Utf8

/-!
# Hosts in a file and on their own

In the file of the hosts the fields of a host stand beside its rules, and its members are held before
they are read; on its own a host is read member by member. Where the first way accepts a value, so does
the second, and both give the same host.
-/
namespace BridgeKeeper.Host

open Json Disk

variable {v : Value} {s : Stored} {ks : List (String × Value)}

/-! ## One host -/

def rulesIn? (ks : List (String × Value)) : Option (List Forward.Rule) := do
  let f ← memberFields? ["portForwardings"] ks
  f.optional "portForwardings" (Value.list? Forward.Rule.ofJson?) []

def othersHeld (ks : List (String × Value)) : Bool :=
  (ks.filter (·.1 != "portForwardings")).all fun m => m.2.isHeld memberDepth

/-- The rules are no field of the host. -/
theorem Record.ofFields?_without (f : Fields) :
    ofFields? (f.without "portForwardings") = ofFields? f := by
  simp (disch := decide) only [ofFields?, Fields.required_without, Fields.optional_without]

theorem Record.ofFields?_filter (ks : List (String × Value)) :
    (memberFields? fieldNames (ks.filter (·.1 != "portForwardings")) >>= ofFields?) =
      ofJson? (.record ks) := by
  have apart : "portForwardings" ∉ fieldNames := by decide
  rw [memberFields?_without fun named => absurd named apart, ofJson?, Value.fields?_members]
  cases memberFields? fieldNames ks with
  | none => rfl
  | some f => exact ofFields?_without f

/-- A record is a host in a file where it is one on its own, its rules are rules, and its other members
can be held. -/
theorem Stored.ofJson?_record (ks : List (String × Value)) : ofJson? (.record ks) =
    (rulesIn? ks).bind fun rules =>
      if othersHeld ks then (Record.ofJson? (.record ks)).map (⟨·, rules⟩) else none := by
  rw [← Record.ofFields?_filter, Value.record, ofJson?, keyed?_eq_some_iff.mpr rfl]
  simp only [rulesIn?, othersHeld, Option.bind_eq_bind, Option.bind_some, Option.bind_assoc,
    Option.map_eq_bind]
  rfl

theorem Stored.ofJson?_eq_some_iff : ofJson? v = some s ↔
    ∃ ks, v = .record ks ∧ Record.ofJson? v = some s.record ∧ rulesIn? ks = some s.rules ∧
      othersHeld ks = true := by
  constructor
  · intro h
    cases v with
    | object ms =>
      cases keyed : keyed? ms with
      | none => simp [ofJson?, keyed] at h
      | some ks =>
        obtain rfl := keyed?_eq_some_iff.mp keyed
        refine ⟨ks, rfl, ?_⟩
        rw [← Value.record, ofJson?_record] at h
        obtain ⟨rules, found, h⟩ := Option.bind_eq_some_iff.mp h
        split at h
        · next held =>
          obtain ⟨record, direct, rfl⟩ := Option.map_eq_some_iff.mp h
          exact ⟨direct, found, held⟩
        · cases h
    | _ => cases h
  · rintro ⟨ks, rfl, direct, found, held⟩
    rw [ofJson?_record, direct, found, held]
    rfl

/-! ## All hosts of a file -/

def Book.elements? (v : Value) : Option (List Value) := do
  let f ← v.fields? ["version", "hosts"]
  f.optional "hosts" (Value.list? some) []

theorem mapM_of_list? {α : Type} {read : Value → Option α} {as : List α}
    (h : v.list? read = some as) : ∃ vs, v.list? some = some vs ∧ vs.mapM read = some as := by
  cases v with
  | array vs =>
    have whole : vs.mapM (fun v => some v) = some (vs.map id) := List.mapM_pure
    exact ⟨vs, by rw [Value.list?, whole, List.map_id], h⟩
  | _ => cases h

theorem Book.mapM_elements? {b : Book} (h : ofJson? v = some b) :
    ∃ vs, elements? v = some vs ∧ vs.mapM Stored.ofJson? = some b.hosts := by
  obtain ⟨f, fields, h⟩ := Option.bind_eq_some_iff.mp h
  obtain ⟨version, -, h⟩ := Option.bind_eq_some_iff.mp h
  obtain ⟨hosts, listed, same⟩ := Option.bind_eq_some_iff.mp h
  cases same
  rw [elements?, fields]
  simp only [Option.bind_eq_bind, Option.bind_some]
  rw [Fields.optional] at listed ⊢
  cases there : f "hosts" with
  | none =>
    rw [there, Option.some.injEq] at listed
    exact ⟨[], rfl, by rw [← listed]; rfl⟩
  | some w =>
    rw [there] at listed
    exact mapM_of_list? listed

/-- Where a value that is read in one way is read in another as a part of it, so are many values. -/
theorem mapM_of_mapM {α β : Type} {read : Value → Option α} {direct : Value → Option β} {part : α → β}
    (agree : ∀ v a, read v = some a → direct v = some (part a)) {vs : List Value} {as : List α}
    (h : vs.mapM read = some as) : vs.mapM direct = some (as.map part) := by
  induction vs generalizing as with
  | nil =>
    cases h
    rfl
  | cons v vs ih =>
    rw [List.mapM_cons] at h ⊢
    obtain ⟨a, first, h⟩ := Option.bind_eq_some_iff.mp h
    obtain ⟨rest, others, same⟩ := Option.bind_eq_some_iff.mp h
    cases same
    rw [agree v a first, ih others]
    rfl

theorem Store.hosts_of_decoded {d : Disk} {p : Path} {text time : String} {b : Book} {only : Bool}
    {rs : List Record} (there : d.readText p = .ok text)
    (decoded : Json.ofText? text >>= Book.ofJson? = some b)
    (h : (hosts p time only d).1 = .ok rs) : rs = b.records only := by
  rw [hosts, load, Disk.load, there] at h
  simp only [decoded, Settings.checkVersion] at h
  split at h
  · cases h
  · cases h
    rfl

/-- A host that is read from a file is what its value is read as on its own, and a store lists the
values that stand for hosts in its file, each read on its own. -/
theorem hosts_read_on_their_own :
    (∀ v s, Stored.ofJson? v = some s → Record.ofJson? v = some s.record) ∧
    ∀ (d : Disk) (p : Path) (text time : String) (v : Value) (b : Book) (only : Bool)
      (rs : List Record), d.readText p = .ok text → Json.ofText? text = some v →
      Book.ofJson? v = some b → (Store.hosts p time only d).1 = .ok rs →
      ∃ vs direct, Book.elements? v = some vs ∧ vs.mapM Record.ofJson? = some direct ∧
        rs.Perm (direct.filter fun r => !only || r.hasConnected) := by
  have agree : ∀ v s, Stored.ofJson? v = some s → Record.ofJson? v = some s.record := by
    intro v s h
    obtain ⟨ks, -, direct, -, -⟩ := Stored.ofJson?_eq_some_iff.mp h
    exact direct
  refine ⟨agree, fun d p text time v b only rs there value book listed => ?_⟩
  obtain ⟨vs, elements, read⟩ := Book.mapM_elements? book
  have decoded : Json.ofText? text >>= Book.ofJson? = some b := by
    rw [value]
    exact book
  refine ⟨vs, b.hosts.map Stored.record, elements, mapM_of_mapM agree read, ?_⟩
  rw [Store.hosts_of_decoded there decoded listed]
  exact List.mergeSort_perm _ _

/-- A host with its members in another order, its rules first, and a member that it does not know. -/
theorem hosts_read_on_their_own_extended :
    let host : Value := .record [("portForwardings", .array []), ("hostname", .text "10.0.0.5"),
      ("lastConnect", .int 5), ("note", .array [.null, .record [("port", .text "none")]]),
      ("username", .text "alice"), ("nickname", .text "box")]
    let file : Value := .record [("hosts", .array [host])]
    let r : Record := ⟨"box", "ssh", "alice", "10.0.0.5", 22, "", "", 5⟩
    let d : Disk := ⟨[(["hosts.json"], .file (Text.Utf8.encode file.compact.toList))]⟩
    Stored.ofJson? host = some ⟨r, []⟩ ∧ Record.ofJson? host = some r ∧
      (Store.hosts ["hosts.json"] "20260101_000000" true d).1 = .ok [r] ∧
      ∃ vs direct, Book.elements? file = some vs ∧ vs.mapM Record.ofJson? = some direct ∧
        [r].Perm (direct.filter fun r => !true || r.hasConnected) := by
  intro host file r d
  have small : (Number.ofInt 5).overflows = false := overflows_ofInt (by decide)
  have held : othersHeld [("portForwardings", .array []), ("hostname", .text "10.0.0.5"),
      ("lastConnect", .int 5), ("note", .array [.null, .record [("port", .text "none")]]),
      ("username", .text "alice"), ("nickname", .text "box")] = true := by
    rw [othersHeld, List.filter_cons_of_neg (by decide), List.filter_eq_self.mpr (by decide)]
    simp [Value.isHeld, areHeld, membersHeld, Value.text, Value.int, Value.record, memberDepth, small]
  have element : Stored.ofJson? host = some ⟨r, []⟩ :=
    Stored.ofJson?_eq_some_iff.mpr ⟨_, rfl, by rfl, by rfl, held⟩
  have book : Book.ofJson? file = some ⟨1, [⟨r, []⟩]⟩ := by
    have one : (Value.array [host]).list? Stored.ofJson? = some [⟨r, []⟩] := by
      rw [Value.list?, List.mapM_cons, element]
      rfl
    have distinct : ["hosts"].Nodup := by decide
    rw [Book.ofJson?, Value.fields?_record distinct (by rfl)]
    simp (disch := decide) only [Fields.optional, List.lookup_cons_self, lookup_tail,
      List.lookup_nil, one, Option.bind_eq_bind, Option.bind_some]
    rfl
  have plain : file.Plain := by
    have note : (Value.array [.null, .record [("port", .text "none")]]).Plain :=
      .array (by simp [Value.Plain.null, Value.Plain.record, Value.Plain.text])
    have own : host.Plain := .record (by
      simp [note, Value.Plain.text, Value.Plain.int, Value.Plain.array])
    exact .record (by simp [own, Value.Plain.array])
  have there : d.readText ["hosts.json"] = .ok file.compact := by
    refine readText_eq_ok_iff.mpr ⟨_, by rfl, ?_⟩
    rw [Text.Utf8.decode?_encode, Option.map_some, String.ofList_toList]
  have value : Json.ofText? file.compact = some file := Json.ofText?_compact plain
  have listed : (Store.hosts ["hosts.json"] "20260101_000000" true d).1 = .ok [r] := by
    rw [Store.hosts, Store.load, Disk.load, there]
    simp only [value, Option.bind_eq_bind, Option.bind_some, book]
    have only : Book.records ⟨1, [⟨r, []⟩]⟩ true = [r] := List.mergeSort_singleton r
    exact congrArg Except.ok only
  obtain ⟨agree, store⟩ := hosts_read_on_their_own
  exact ⟨element, agree host _ element, listed, store d _ _ _ file _ true [r] there value book listed⟩

end BridgeKeeper.Host
