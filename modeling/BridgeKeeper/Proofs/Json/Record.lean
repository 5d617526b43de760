import BridgeKeeper.Proofs.Json.Members

/-!
# Written data reads back

A record is written as an object of its fields in order, a number as an integer. Each comes back as it
was, and is small enough to be held.
-/
namespace BridgeKeeper.Json

/-! ## Numbers -/

theorem Number.integer?_ofInt (k : Int) : (Number.ofInt k).integer? = some k := by
  by_cases negative : k < 0
  · have other : (k.natAbs == 0) = false := beq_eq_false_iff_ne.mpr (by omega)
    have back : -(k.natAbs : Int) = k := by omega
    simp only [Number.ofInt, Number.integer?, negative, decide_true, other, back, Bool.and_false,
      Bool.not_false, List.isEmpty_nil, Option.isNone_none, Bool.and_true, if_true]
  · have back : (k.natAbs : Int) = k := by omega
    simp only [Number.ofInt, Number.integer?, negative, decide_false, back, Bool.false_and,
      Bool.not_false, List.isEmpty_nil, Option.isNone_none, Bool.and_true, if_true,
      Bool.false_eq_true, if_false]

theorem Value.intIn?_int {low high k : Int} (above : low ≤ k) (below : k ≤ high) :
    (Value.int k).intIn? low high = some k := by
  simp [Value.intIn?, Value.int?, Value.int, Number.integer?_ofInt, above, below]

theorem Value.uint16?_nat (x : UInt16) : (Value.nat x.toNat).uint16? = some x := by
  have small := x.toNat_lt
  rw [Value.uint16?, Value.nat, Value.intIn?_int (by omega) (by simp only [UInt16.size]; omega)]
  simp

theorem Value.uint32?_nat (x : UInt32) : (Value.nat x.toNat).uint32? = some x := by
  have small := x.toNat_lt
  rw [Value.uint32?, Value.nat, Value.intIn?_int (by omega) (by simp only [UInt32.size]; omega)]
  simp

theorem Value.uint64?_nat (x : UInt64) : (Value.nat x.toNat).uint64? = some x := by
  have small := x.toNat_lt
  rw [Value.uint64?, Value.nat, Value.intIn?_int (by omega) (by simp only [UInt64.size]; omega)]
  simp

theorem Value.int64?_int (x : Int64) : (Value.int x.toInt).int64? = some x := by
  rw [Value.int64?, Value.intIn?_int x.minValue_le_toInt x.toInt_le]
  simp

/-- What an integer of 32 bits lies between. -/
theorem int32_range (x : Int32) : -2147483648 ≤ x.toInt ∧ x.toInt ≤ 2147483647 :=
  ⟨x.minValue_le_toInt, x.toInt_le⟩

theorem Value.int32?_eq_some_iff {v : Value} {x : Int32} :
    v.int32? = some x ↔ v.int? = some x.toInt := by
  have low : Int32.minValue.toInt = -2147483648 := rfl
  have high : Int32.maxValue.toInt = 2147483647 := rfl
  rw [int32?, intIn?, Option.map_eq_some_iff, low, high]
  constructor
  · rintro ⟨k, found, rfl⟩
    obtain ⟨integer, range⟩ := Option.filter_eq_some_iff.mp found
    simp only [Bool.and_eq_true, decide_eq_true_eq] at range
    rw [integer, Int32.toInt_ofInt_of_le (by omega) (by omega)]
  · intro integer
    have range := int32_range x
    exact ⟨x.toInt, Option.filter_eq_some_iff.mpr ⟨integer, by simp [range]⟩, x.ofInt_toInt⟩

theorem le_foldl_digitValue (n : Nat) (ds : List Char) :
    n ≤ ds.foldl (fun n c => n * 10 + Text.digitValue c) n := by
  induction ds generalizing n with
  | nil => exact Nat.le_refl n
  | cons c ds ih =>
    have step : n ≤ n * 10 + Text.digitValue c := by omega
    exact Nat.le_trans step (ih _)

theorem takeSignificant_of_lt {n : Nat} {ds : List Char}
    (h : ds.foldl (fun n c => n * 10 + Text.digitValue c) n < UInt64.size) :
    takeSignificant n ds = (ds.foldl (fun n c => n * 10 + Text.digitValue c) n, ds.length) := by
  induction ds generalizing n with
  | nil => rfl
  | cons c ds ih =>
    have small := Nat.lt_of_le_of_lt (le_foldl_digitValue (n * 10 + Text.digitValue c) ds) h
    simp [takeSignificant, small, ih h]

theorem overflows_ofInt {k : Int} (small : k.natAbs < UInt64.size) :
    (Number.ofInt k).overflows = false := by
  have value : (Text.decimal k.natAbs).foldl (fun n c => n * 10 + Text.digitValue c) 0 = k.natAbs :=
    Text.decimalValue_decimal k.natAbs
  have all := takeSignificant_of_lt (value ▸ small)
  simp [Number.overflows, Number.ofInt, all]

/-! ## Records -/

def Single (names : List String) (ms : List (String × Value)) : Prop :=
  ∀ n ∈ names, (ms.filter (·.1 == n)).length ≤ 1

/-- It is enough that the keys of the record are distinct, and that is a fact of its names alone. -/
theorem single_of_keys {names keys : List String} {ms : List (String × Value)}
    (distinct : keys.Nodup) (h : ms.map (·.1) = keys) : Single names ms := by
  intro n _
  have once := List.nodup_iff_count.mp (h ▸ distinct) n
  rwa [List.count, List.countP_map, List.countP_eq_length_filter] at once

theorem memberFields?_of_single {names : List String} {ms : List (String × Value)}
    (single : Single names ms) : memberFields? names ms = some fun n => ms.lookup n := by
  simp only [memberFields?, List.all_eq_true, decide_eq_true_eq]
  exact if_pos single

theorem Value.fields?_record {names keys : List String} {ms : List (String × Value)}
    (distinct : keys.Nodup) (h : ms.map (·.1) = keys) :
    (Value.record ms).fields? names = some fun n => ms.lookup n := by
  rw [Value.fields?_members]
  exact memberFields?_of_single (single_of_keys distinct h)

theorem Value.list?_array {α : Type} {write : α → Value} {read : Value → Option α}
    (back : ∀ a, read (write a) = some a) (as : List α) :
    (Value.array (as.map write)).list? read = some as := by
  rw [Value.list?]
  induction as with
  | nil => rfl
  | cons a as ih =>
    rw [List.map_cons, List.mapM_cons, ih, back]
    rfl

end BridgeKeeper.Json
