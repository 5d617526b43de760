import Mathlib.Data.List.Induction
import BridgeKeeper.Proofs.Json.Record
import BridgeKeeper.Proofs.Json.RoundTrip
import BridgeKeeper.Proofs.Text.Numeral
import BridgeKeeper.Proofs.Text.Utf8

/-!
# Integers as text

An integer other than zero is read from its numeral alone: decimal digits without a superfluous zero in
front, behind a minus sign where it is negative, with nothing but blanks around. The digits determine
the integer and are determined by it, so the reader need only be followed in one direction.
-/
namespace BridgeKeeper.Json

/-- Decimal digits without a superfluous zero in front. -/
structure Digits (ds : List Char) : Prop where
  nonempty : ds ≠ []
  digit : ∀ c ∈ ds, c.isDigit
  front : ds.head? = some '0' → ds = ['0']

/-- Digits behind an optional minus sign, and the integer that they denote. -/
inductive Denotes : List Char → Int → Prop
  | plain {ds : List Char} : Digits ds → Denotes ds (Text.decimalValue ds)
  | minus {ds : List Char} : Digits ds → Denotes ('-' :: ds) (-Text.decimalValue ds)

/-! ## One numeral for each integer -/

theorem decimal_step {n d : Nat} (positive : n ≠ 0) (small : d < 10) :
    Text.decimal (n * 10 + d) = Text.decimal n ++ [Text.digitChar d] := by
  have high : (n * 10 + d) / 10 = n := by omega
  have low : (n * 10 + d) % 10 = d := by omega
  rw [Text.decimal, if_neg (by omega), high, low]

/-- What stands before the last of several digits does not start with a zero. -/
theorem Digits.of_concat {ds : List Char} {c : Char} (h : Digits (ds ++ [c])) (more : ds ≠ []) :
    Digits ds ∧ ds.head? ≠ some '0' := by
  have other : ds.head? ≠ some '0' := by
    intro zero
    have whole := h.front (by rw [List.head?_append, zero]; rfl)
    have short : ds.length = 0 := by simpa using congrArg List.length whole
    exact more (List.length_eq_zero_iff.mp short)
  exact ⟨⟨more, fun d hd => h.digit d (List.mem_append_left _ hd), fun zero => absurd zero other⟩, other⟩

/-- Digits are the numeral of their value. The induction takes away the last digit, as the numeral is
built. -/
theorem Digits.eq_decimal {ds : List Char} (h : Digits ds) :
    ds = Text.decimal (Text.decimalValue ds) := by
  induction ds using List.reverseRecOn with
  | nil => exact absurd rfl h.nonempty
  | append_singleton ds c ih =>
    obtain ⟨small, back⟩ := Text.digitChar_digitValue (h.digit c (by simp))
    rw [Text.decimalValue_append_singleton]
    by_cases alone : ds = []
    · have value : Text.decimalValue ds * 10 + Text.digitValue c = Text.digitValue c := by
        rw [alone]
        exact Nat.zero_add _
      rw [value, Text.decimal, if_pos small, back, alone]
      rfl
    · obtain ⟨front, other⟩ := h.of_concat alone
      have same := ih front
      have positive : Text.decimalValue ds ≠ 0 := by
        intro zero
        rcases Text.decimal_cases 0 with ⟨-, text⟩ | ⟨wrong, -⟩
        · rw [zero, text] at same
          rw [same] at other
          exact other rfl
        · exact wrong rfl
      rw [decimal_step positive small, back, ← same]

theorem Denotes.eq_decimalInt {s : List Char} {k : Int} (h : Denotes s k) (other : k ≠ 0) :
    s = Text.decimalInt k := by
  cases h with
  | plain digits =>
    have positive : ¬ (Text.decimalValue s : Int) < 0 := by omega
    rw [Text.decimalInt, if_neg positive, Int.natAbs_natCast]
    exact digits.eq_decimal
  | @minus ds digits =>
    have negative : -(Text.decimalValue ds : Int) < 0 := by omega
    rw [Text.decimalInt, if_pos negative, Int.natAbs_neg, Int.natAbs_natCast]
    exact congrArg _ digits.eq_decimal

/-! ## What the reader takes -/

variable {i r : Input} {m : Number} {k : Int}

theorem takeDigits_eq (i : Input) : i = (takeDigits i).1.map some ++ (takeDigits i).2 ∧
    ∀ c ∈ (takeDigits i).1, c.isDigit := by
  induction i with
  | nil => exact ⟨rfl, by simp [takeDigits]⟩
  | cons c i ih =>
    cases c with
    | none => exact ⟨rfl, by simp [takeDigits]⟩
    | some c =>
      by_cases digit : c.isDigit
      · simp only [takeDigits, digit, if_true, List.map_cons, List.cons_append, List.mem_cons,
          forall_eq_or_imp, true_and]
        exact ⟨congrArg _ ih.1, ih.2⟩
      · simp [takeDigits, digit]

theorem readWhole_eq_some {n : Nat} (h : readWhole i = some (n, r)) :
    ∃ ds, Digits ds ∧ i = ds.map some ++ r ∧ Text.decimalValue ds = n := by
  unfold readWhole at h
  split at h
  · next r' =>
    cases h
    exact ⟨['0'], ⟨by simp, by simp, fun _ => rfl⟩, rfl, rfl⟩
  · next r' other =>
    obtain ⟨whole, digits⟩ := takeDigits_eq i
    generalize takeDigits i = taken at whole digits h
    obtain ⟨ds, r'⟩ := taken
    by_cases none : ds.isEmpty
    · simp [none] at h
    · simp only [none, Bool.false_eq_true, if_false, Option.some.injEq, Prod.mk.injEq] at h
      obtain ⟨rfl, rfl⟩ := h
      refine ⟨ds, ⟨by simpa using none, digits, fun zero => ?_⟩, whole, rfl⟩
      obtain ⟨rest, rfl⟩ := List.head?_eq_some_iff.mp zero
      exact absurd whole (other _)

theorem readFraction_eq_nil (h : readFraction i = some ([], r)) : r = i := by
  unfold readFraction at h
  split at h
  · next r' =>
    generalize takeDigits r' = taken at h
    obtain ⟨ds, r''⟩ := taken
    cases ds <;> simp at h
  · cases h
    rfl

theorem readExponent_eq_none (h : readExponent i = some (none, r)) : r = i := by
  have marked (negative : Bool) (i : Input) : (if (takeDigits i).1.isEmpty then none
      else some (some (negative, (takeDigits i).1), (takeDigits i).2)) ≠ some (none, r) := by
    split <;> simp
  unfold readExponent at h
  split at h
  · dsimp only at h
    split at h <;> exact absurd h (marked _ _)
  · dsimp only at h
    split at h <;> exact absurd h (marked _ _)
  · cases h
    rfl

/-- A numeral with neither fraction nor exponent is made of digits. -/
theorem readUnsigned_integral {negative : Bool} (h : readUnsigned negative i = some (m, r))
    (noFraction : m.fraction = []) (noExponent : m.exponent = none) :
    ∃ ds, Digits ds ∧ i = ds.map some ++ r ∧ m = ⟨negative, Text.decimalValue ds, [], none⟩ := by
  obtain ⟨⟨n, r₁⟩, whole, h⟩ := Option.bind_eq_some_iff.mp h
  obtain ⟨⟨fraction, r₂⟩, point, h⟩ := Option.bind_eq_some_iff.mp h
  obtain ⟨⟨exponent, r₃⟩, mark, h⟩ := Option.bind_eq_some_iff.mp h
  cases h
  cases noFraction
  cases noExponent
  obtain ⟨ds, digits, rfl, rfl⟩ := readWhole_eq_some whole
  cases readFraction_eq_nil point
  cases readExponent_eq_none mark
  exact ⟨ds, digits, rfl, rfl⟩

theorem Number.integer?_eq_some (h : m.integer? = some k) : m.fraction = [] ∧ m.exponent = none ∧
    k = if m.negative then -(m.whole : Int) else m.whole := by
  rw [Number.integer?] at h
  split at h
  · next plain =>
    simp only [Bool.and_eq_true, List.isEmpty_iff, Option.isNone_iff_eq_none] at plain
    exact ⟨plain.1.1, plain.1.2, (Option.some.inj h).symm⟩
  · cases h

theorem readNumber_integer (h : readNumber i = some (m, r)) (integer : m.integer? = some k) :
    ∃ s, Denotes s k ∧ i = s.map some ++ r := by
  obtain ⟨noFraction, noExponent, rfl⟩ := Number.integer?_eq_some integer
  unfold readNumber at h
  split at h
  · obtain ⟨ds, digits, rfl, rfl⟩ := readUnsigned_integral h noFraction noExponent
    exact ⟨'-' :: ds, .minus digits, rfl⟩
  · obtain ⟨ds, digits, rfl, rfl⟩ := readUnsigned_integral h noFraction noExponent
    exact ⟨ds, .plain digits, rfl⟩

theorem skipSpace_eq (i : Input) :
    ∃ s : List Char, (∀ c ∈ s, isSpace (some c)) ∧ i = s.map some ++ skipSpace i := by
  induction i with
  | nil => exact ⟨[], by simp, rfl⟩
  | cons c i ih =>
    cases space : isSpace c with
    | false => exact ⟨[], by simp, by simp [skipSpace, space]⟩
    | true =>
      obtain ⟨s, blank, split⟩ := ih
      cases c with
      | none => cases space
      | some c =>
        refine ⟨c :: s, by simpa [space] using blank, ?_⟩
        rw [skipSpace, List.dropWhile_cons_of_pos space, List.map_cons, List.cons_append]
        exact congrArg _ split

/-- A value that is a number was read as one, for every other kind of value has a mark of its own in
front. -/
theorem readNumber_of_readValue {n : Nat} (h : readValue n i = some (.number m, r)) :
    readNumber (skipSpace i) = some (m, r) := by
  cases n with
  | zero => simp [readValue] at h
  | succ n =>
    rw [readValue] at h
    split at h
    · split at h
      · cases h
      · obtain ⟨x, -, same⟩ := Option.map_eq_some_iff.mp h
        cases same
    · split at h
      · cases h
      · obtain ⟨x, -, same⟩ := Option.map_eq_some_iff.mp h
        cases same
    · obtain ⟨x, -, same⟩ := Option.map_eq_some_iff.mp h
      cases same
    · cases h
    · cases h
    · cases h
    · obtain ⟨x, read, same⟩ := Option.map_eq_some_iff.mp h
      cases same
      exact read

/-! ## Whole texts -/

/-- A numeral of the integer with nothing but blanks around. -/
def Spells (s : List Char) (k : Int) : Prop :=
  ∃ before numeral after, s = before ++ numeral ++ after ∧ (∀ c ∈ before, isSpace (some c)) ∧
    (∀ c ∈ after, isSpace (some c)) ∧ Denotes numeral k

theorem spells_of_read? (h : read? i >>= Value.int? = some k) : ∃ s, Spells s k ∧ i = s.map some := by
  obtain ⟨v, read, integer⟩ := Option.bind_eq_some_iff.mp h
  obtain ⟨⟨v, r⟩, first, rest⟩ := Option.bind_eq_some_iff.mp read
  dsimp only at rest
  split at rest
  · next ended =>
    cases rest
    cases v with
    | number m =>
      obtain ⟨before, blank, front⟩ := skipSpace_eq i
      obtain ⟨numeral, denotes, number⟩ := readNumber_integer (readNumber_of_readValue first) integer
      obtain ⟨after, blank', back⟩ := skipSpace_eq r
      refine ⟨before ++ numeral ++ after, ⟨before, numeral, after, rfl, blank, blank', denotes⟩, ?_⟩
      rw [List.isEmpty_iff.mp ended, List.append_nil] at back
      rw [front, number, back, List.map_append, List.map_append, List.append_assoc]
    | _ => cases integer
  · cases rest

theorem read?_of_spells {s : List Char} (h : Spells s k) (other : k ≠ 0) :
    read? (s.map some) >>= Value.int? = some k := by
  obtain ⟨before, numeral, after, rfl, blank, blank', denotes⟩ := h
  have stops : Stops (after.map some) := by
    cases after with
    | nil => exact stops_nil
    | cons c after => exact stops_space (blank' c List.mem_cons_self) _
  have ended : skipSpace (after.map some) = [] := by
    have := skipSpace_append blank' []
    rwa [List.append_nil] at this
  have number := readNumber_decimalInt k stops
  obtain ⟨c, rest, text, front⟩ := decimalInt_front k
  rw [← denotes.eq_decimalInt other] at number text
  rw [List.map_append, List.map_append, List.append_assoc, read?, readValue_append blank]
  rw [text, List.map_cons, List.cons_append] at number ⊢
  rw [readValue_numeral front, number]
  simp [ended, Value.int?, Number.integer?_ofInt]

theorem Spells.unique {s : List Char} {l : Int} (h : Spells s k) (h' : Spells s l) (other : k ≠ 0)
    (other' : l ≠ 0) : k = l := by
  have read := read?_of_spells h other
  rw [read?_of_spells h' other'] at read
  exact (Option.some.inj read).symm

/-- Integers are read from the UTF-8 bytes of their numerals. -/
theorem int?_ofBytes?_iff {bytes : List UInt8} (other : k ≠ 0) :
    ofBytes? bytes >>= Value.int? = some k ↔ ∃ s, Spells s k ∧ bytes = Text.Utf8.encode s := by
  rw [ofBytes?]
  constructor
  · intro h
    obtain ⟨s, spells, text⟩ := spells_of_read? h
    exact ⟨s, spells, (Text.Utf8.encode_of_decodeFrom bytes s text).symm⟩
  · rintro ⟨s, spells, rfl⟩
    rw [Text.Utf8.decode_encode]
    exact read?_of_spells spells other

end BridgeKeeper.Json
