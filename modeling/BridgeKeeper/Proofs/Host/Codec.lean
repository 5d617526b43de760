import BridgeKeeper.Host.Store
import BridgeKeeper.Proofs.Json.Record
import BridgeKeeper.Proofs.Json.RoundTrip
import BridgeKeeper.Proofs.Text.Utf8

/-!
# The file of the hosts reads back

The bytes that are written for the hosts decode to those hosts: every record comes back with all its
fields and rules, whatever texts and numbers they hold.
-/
namespace BridgeKeeper
open Json

theorem Forward.Rule.ofJson?_toJson (r : Forward.Rule) : ofJson? r.toJson = some r := by
  have distinct : fieldNames.Nodup := by decide
  rw [ofJson?, toJson, Value.fields?_record distinct (by rfl)]
  simp (disch := decide) only [Fields.required, List.lookup_cons_self, lookup_tail, Value.text?,
    Value.text, Value.bool?, Value.uint16?_nat, Option.bind_eq_bind, Option.bind_some,
    Option.pure_def]

theorem Forward.Rule.plain_toJson (r : Forward.Rule) : r.toJson.Plain := by
  refine .record ?_
  simp [Value.Plain.text, Value.Plain.bool, Value.Plain.int, Value.nat]

namespace Host

theorem Record.ofFields?_members (r : Record) :
    Record.ofFields? (fun n => r.members.lookup n) = some r := by
  simp (disch := decide) only [Record.ofFields?, Record.members, Fields.required, Fields.optional,
    List.lookup_cons_self, lookup_tail, Value.text?, Value.text, Value.uint16?_nat, Value.int64?_int,
    Option.bind_eq_bind, Option.bind_some, Option.pure_def]

theorem Record.members_isHeld (r : Record) (depth : Nat) :
    r.members.all fun m => m.2.isHeld depth := by
  have port : (Number.ofInt r.port.toNat).overflows = false := by
    have := r.port.toNat_lt
    exact overflows_ofInt (by simp only [UInt64.size]; omega)
  have time : (Number.ofInt r.lastConnect.toInt).overflows = false := by
    have low := r.lastConnect.le_toInt
    have high := r.lastConnect.toInt_lt
    exact overflows_ofInt (by simp only [UInt64.size]; omega)
  simp [Record.members, Value.isHeld, Value.text, Value.nat, Value.int, port, time]

/-- The rules stand under a key that is none of the fields, so they are told from them. -/
theorem Record.other_keys (r : Record) : ∀ m ∈ r.members, m.1 ≠ "portForwardings" := by
  have free : "portForwardings" ∉ Record.fieldNames := by decide
  rintro m member same
  have named : m.1 ∈ r.members.map (·.1) := List.mem_map_of_mem member
  exact free (same ▸ named)

theorem Stored.ofJson?_toJson (s : Stored) : Stored.ofJson? s.toJson = some s := by
  let rules : String × Value := ("portForwardings", .array (s.rules.map Forward.Rule.toJson))
  have distinct : (Record.fieldNames ++ ["portForwardings"]).Nodup := by decide
  have ruled : memberFields? ["portForwardings"] (s.record.members ++ [rules]) =
      some fun n => (s.record.members ++ [rules]).lookup n :=
    memberFields?_of_single (single_of_keys distinct rfl)
  have others : (s.record.members ++ [rules]).filter (·.1 != "portForwardings") =
      s.record.members := by
    rw [List.filter_append, List.filter_eq_self.mpr fun m h =>
      bne_iff_ne.mpr (s.record.other_keys m h)]
    exact List.append_nil _
  have fields : memberFields? Record.fieldNames s.record.members =
      some fun n => s.record.members.lookup n :=
    memberFields?_of_single (single_of_keys (List.nodup_append.mp distinct).1 rfl)
  have list : (s.record.members ++ [rules]).lookup "portForwardings" = some rules.2 := by
    simp (disch := decide) only [Record.members, rules, List.cons_append, List.nil_append,
      List.lookup_cons_self, lookup_tail]
  simp only [Stored.ofJson?, Stored.toJson, Value.record, keyed?_eq_some_iff.mpr rfl, Option.bind_eq_bind,
    Option.bind_some]
  rw [ruled]
  simp only [Option.bind_some, Fields.optional, list, others, s.record.members_isHeld, fields,
    rules, Value.list?_array Forward.Rule.ofJson?_toJson, Record.ofFields?_members, if_true]
  rfl

namespace Book

theorem ofJson?_toJson (b : Book) : ofJson? b.toJson = some b := by
  have distinct : ["version", "hosts"].Nodup := by decide
  rw [ofJson?, toJson, Value.fields?_record distinct (by rfl)]
  simp (disch := decide) only [Fields.optional, List.lookup_cons_self, lookup_tail, Value.uint32?_nat,
    Value.list?_array Stored.ofJson?_toJson, Option.bind_eq_bind, Option.bind_some,
    Option.pure_def]

end Book

theorem Record.plain_members (r : Record) : ∀ m ∈ r.members, m.2.Plain := by
  simp [Record.members, Value.Plain.text, Value.Plain.int, Value.nat]

theorem Stored.plain_toJson (s : Stored) : s.toJson.Plain := by
  refine .record fun m h => ?_
  rcases List.mem_append.mp h with h | h
  · exact s.record.plain_members m h
  · rw [List.mem_singleton.mp h]
    refine .array fun v h => ?_
    obtain ⟨r, -, rfl⟩ := List.mem_map.mp h
    exact r.plain_toJson

theorem Book.plain_toJson (b : Book) : b.toJson.Plain := by
  refine .record fun m h => ?_
  rcases List.mem_cons.mp h with rfl | h
  · exact .int _
  · rw [List.mem_singleton.mp h]
    refine .array fun v h => ?_
    obtain ⟨s, -, rfl⟩ := List.mem_map.mp h
    exact s.plain_toJson

/-- The text of a book denotes that book. -/
theorem Book.ofText?_pretty (b : Book) : Json.ofText? b.toJson.pretty >>= Book.ofJson? = some b := by
  rw [Json.ofText?_pretty b.plain_toJson]
  exact b.ofJson?_toJson

end Host
end BridgeKeeper
