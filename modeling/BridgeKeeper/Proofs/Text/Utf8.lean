import BridgeKeeper.Text.Utf8

/-!
# Text through UTF-8

What is encoded decodes to the text it came from: the bytes of each character are one piece, and
leave nothing open behind them. No other bytes decode.
-/
namespace BridgeKeeper.Text.Utf8

theorem length_encodeChar_pos (c : Char) : 0 < (encodeChar c).length := by
  rw [encodeChar]
  repeat' split
  all_goals exact Nat.succ_pos _

theorem toNat_toUInt8 {n : Nat} (small : n < 256) : n.toUInt8.toNat = n := by
  simp [Nat.mod_eq_of_lt small]

theorem decodeFrom_none_cons {n : Nat} (r : List UInt8) (small : n < 256) :
    decodeFrom none (n.toUInt8 :: r) = (first n).1 ++ decodeFrom (first n).2 r := by
  rw [decodeFrom, toNat_toUInt8 small]
  rfl

/-- A byte that an open character takes. -/
theorem decodeFrom_some_cons {p : Pending} {n : Nat} (r : List UInt8) (small : n < 256)
    (low : p.low ≤ n) (high : n ≤ p.high) :
    decodeFrom (some p) (n.toUInt8 :: r) =
      if p.need = 1 then some (Char.ofNat (p.bits * 0x40 + (n - 0x80))) :: decodeFrom none r
      else decodeFrom (some ⟨p.bits * 0x40 + (n - 0x80), p.need - 1, 0x80, 0xBF⟩) r := by
  rw [decodeFrom, toNat_toUInt8 small]
  by_cases last : p.need = 1 <;> simp [step, low, high, last]

theorem decodeFrom_tail {bits need n : Nat} (r : List UInt8) (small : n < 0x40) :
    decodeFrom (some ⟨bits, need, 0x80, 0xBF⟩) ((0x80 + n).toUInt8 :: r) =
      if need = 1 then some (Char.ofNat (bits * 0x40 + n)) :: decodeFrom none r
      else decodeFrom (some ⟨bits * 0x40 + n, need - 1, 0x80, 0xBF⟩) r := by
  rw [decodeFrom_some_cons r (by omega) (by simp) (by simp; omega), Nat.add_sub_cancel_left]

/-! ## The byte that opens a character -/

theorem first_two {b : Nat} (low : 0xC2 ≤ b) (high : b < 0xE0) :
    first b = ([], some ⟨b - 0xC0, 1, 0x80, 0xBF⟩) := by
  unfold first
  repeat rw [if_neg (by omega)]
  rw [if_pos high]

/-- The next byte is bounded so that no character has a longer form than it needs and none is a surrogate. -/
theorem first_three {b : Nat} (low : 0xE0 ≤ b) (high : b < 0xF0) :
    first b = ([], some ⟨b - 0xE0, 2, if b = 0xE0 then 0xA0 else 0x80, if b = 0xED then 0x9F else 0xBF⟩) := by
  unfold first
  repeat rw [if_neg (by omega)]
  by_cases e0 : b = 0xE0
  · subst e0
    rfl
  by_cases ed : b = 0xED
  · subst ed
    rfl
  · simp only [if_neg e0, if_neg ed, if_pos high]

/-- The next byte is bounded so that no character has a longer form than it needs and none is past the
last one. -/
theorem first_four {b : Nat} (low : 0xF0 ≤ b) (high : b ≤ 0xF4) :
    first b = ([], some ⟨b - 0xF0, 3, if b = 0xF0 then 0x90 else 0x80, if b = 0xF4 then 0x8F else 0xBF⟩) := by
  unfold first
  repeat rw [if_neg (by omega)]
  by_cases f0 : b = 0xF0
  · subst f0
    rfl
  by_cases f4 : b = 0xF4
  · subst f4
    rfl
  · simp only [if_neg f0, if_neg f4, if_pos (Nat.lt_of_le_of_ne high f4)]

/-! ## Text that is decoded -/

/-- The first two bytes of a character of three: they leave twelve bits open. -/
theorem decodeFrom_three {n : Nat} (r : List UInt8) (low : 0x800 ≤ n) (high : n < 0x10000)
    (valid : n < 0xD800 ∨ 0xDFFF < n) :
    decodeFrom none ((0xE0 + n / 0x1000).toUInt8 :: (0x80 + n / 0x40 % 0x40).toUInt8 :: r) =
      decodeFrom (some ⟨n / 0x40, 1, 0x80, 0xBF⟩) r := by
  have whole : (0xE0 + n / 0x1000 - 0xE0) * 0x40 + (0x80 + n / 0x40 % 0x40 - 0x80) = n / 0x40 := by omega
  rw [decodeFrom_none_cons _ (by omega), first_three (by omega) (by omega), List.nil_append,
    decodeFrom_some_cons r (by omega) (by dsimp only; split <;> omega) (by dsimp only; split <;> omega)]
  simp only [whole]
  rfl

/-- The first two bytes of a character of four: they leave twelve bits open. -/
theorem decodeFrom_four {n : Nat} (r : List UInt8) (low : 0x10000 ≤ n) (high : n < 0x110000) :
    decodeFrom none ((0xF0 + n / 0x40000).toUInt8 :: (0x80 + n / 0x1000 % 0x40).toUInt8 :: r) =
      decodeFrom (some ⟨n / 0x1000, 2, 0x80, 0xBF⟩) r := by
  have whole : (0xF0 + n / 0x40000 - 0xF0) * 0x40 + (0x80 + n / 0x1000 % 0x40 - 0x80) = n / 0x1000 := by omega
  rw [decodeFrom_none_cons _ (by omega), first_four (by omega) (by omega), List.nil_append,
    decodeFrom_some_cons r (by omega) (by dsimp only; split <;> omega) (by dsimp only; split <;> omega)]
  simp only [whole]
  rfl

theorem decodeFrom_encodeChar (c : Char) (r : List UInt8) :
    decodeFrom none (encodeChar c ++ r) = some c :: decodeFrom none r := by
  have valid : c.toNat < 0xD800 ∨ 0xDFFF < c.toNat ∧ c.toNat < 0x110000 := c.valid
  have same : Char.ofNat c.toNat = c := Char.ofNat_toNat c
  by_cases one : c.toNat < 0x80
  · rw [encodeChar, if_pos one, List.singleton_append, decodeFrom_none_cons _ (by omega)]
    simp [first, one]
  · by_cases two : c.toNat < 0x800
    · rw [encodeChar, if_neg one, if_pos two, List.cons_append, List.singleton_append,
        decodeFrom_none_cons _ (by omega), first_two (by omega) (by omega), List.nil_append,
        Nat.add_sub_cancel_left, decodeFrom_tail _ (by omega), if_pos rfl, Nat.div_add_mod', same]
    · by_cases three : c.toNat < 0x10000
      · simp only [encodeChar, if_neg one, if_neg two, if_pos three, List.cons_append,
          List.nil_append]
        rw [decodeFrom_three _ (by omega) three (by omega), decodeFrom_tail _ (by omega), if_pos rfl,
          Nat.div_add_mod', same]
      · simp only [encodeChar, if_neg one, if_neg two, if_neg three, List.cons_append,
          List.nil_append]
        have whole : c.toNat / 0x1000 * 0x40 + c.toNat / 0x40 % 0x40 = c.toNat / 0x40 := by omega
        rw [decodeFrom_four _ (by omega) (by omega), decodeFrom_tail _ (by omega), whole,
          if_neg (by omega), decodeFrom_tail _ (by omega), if_pos rfl, Nat.div_add_mod', same]

theorem decode_encode (s : List Char) : decode (encode s) = s.map some := by
  induction s with
  | nil => rfl
  | cons c s ih =>
    rw [decode, encode, List.flatMap_cons, decodeFrom_encodeChar, List.map_cons]
    exact congrArg (some c :: ·) ih

/-- Every text comes back from its bytes. -/
theorem decode?_encode (s : List Char) : decode? (encode s) = some s := by
  rw [decode?, decode_encode]
  induction s with
  | nil => rfl
  | cons c s ih => rw [List.map_cons, List.mapM_cons, ih]; rfl

/-! ## Bytes that decode -/

theorem toUInt8_toNat (b : UInt8) : b.toNat.toUInt8 = b := by simp

theorem toNat_ofNat {n : Nat} (valid : n < 0xD800 ∨ 0xDFFF < n ∧ n < 0x110000) :
    (Char.ofNat n).toNat = n := by
  rw [Char.ofNat, dif_pos valid]
  rfl

theorem encodeChar_two {x y : Nat} (low : 2 ≤ x) (high : x < 0x20) (tail : y < 0x40) :
    encodeChar (Char.ofNat (x * 0x40 + y)) = [(0xC0 + x).toUInt8, (0x80 + y).toUInt8] := by
  have lead : (x * 0x40 + y) / 0x40 = x := by omega
  have rest : (x * 0x40 + y) % 0x40 = y := by omega
  rw [encodeChar, toNat_ofNat (by omega)]
  simp only [lead, rest]
  rw [if_neg (by omega), if_pos (by omega)]

theorem encodeChar_three {x y z : Nat} (high : x < 0x10) (next : y < 0x40) (tail : z < 0x40)
    (low : x = 0 → 0x20 ≤ y) (valid : x = 13 → y < 0x20) :
    encodeChar (Char.ofNat ((x * 0x40 + y) * 0x40 + z)) =
      [(0xE0 + x).toUInt8, (0x80 + y).toUInt8, (0x80 + z).toUInt8] := by
  have lead : ((x * 0x40 + y) * 0x40 + z) / 0x1000 = x := by omega
  have middle : ((x * 0x40 + y) * 0x40 + z) / 0x40 % 0x40 = y := by omega
  have rest : ((x * 0x40 + y) * 0x40 + z) % 0x40 = z := by omega
  rw [encodeChar, toNat_ofNat (by omega)]
  simp only [lead, middle, rest]
  rw [if_neg (by omega), if_neg (by omega), if_pos (by omega)]

theorem encodeChar_four {x y z u : Nat} (high : x ≤ 4) (next : y < 0x40) (third : z < 0x40)
    (tail : u < 0x40) (low : x = 0 → 0x10 ≤ y) (valid : x = 4 → y < 0x10) :
    encodeChar (Char.ofNat (((x * 0x40 + y) * 0x40 + z) * 0x40 + u)) =
      [(0xF0 + x).toUInt8, (0x80 + y).toUInt8, (0x80 + z).toUInt8, (0x80 + u).toUInt8] := by
  have lead : (((x * 0x40 + y) * 0x40 + z) * 0x40 + u) / 0x40000 = x := by omega
  have second : (((x * 0x40 + y) * 0x40 + z) * 0x40 + u) / 0x1000 % 0x40 = y := by omega
  have middle : (((x * 0x40 + y) * 0x40 + z) * 0x40 + u) / 0x40 % 0x40 = z := by omega
  have rest : (((x * 0x40 + y) * 0x40 + z) * 0x40 + u) % 0x40 = u := by omega
  rw [encodeChar, toNat_ofNat (by omega)]
  simp only [lead, second, middle, rest]
  rw [if_neg (by omega), if_neg (by omega), if_neg (by omega)]

/-- An open character goes on, where all that is read decodes. -/
theorem open_of_decodeFrom {p : Pending} {bytes : List UInt8} {s : List Char}
    (h : decodeFrom (some p) bytes = s.map some) : ∃ b r, bytes = b :: r ∧
      p.low ≤ b.toNat ∧ b.toNat ≤ p.high ∧
      (if p.need = 1 then some (Char.ofNat (p.bits * 0x40 + (b.toNat - 0x80))) :: decodeFrom none r
        else decodeFrom (some ⟨p.bits * 0x40 + (b.toNat - 0x80), p.need - 1, 0x80, 0xBF⟩) r) =
          s.map some := by
  cases bytes with
  | nil => cases s <;> simp [decodeFrom] at h
  | cons b r =>
    by_cases within : p.low ≤ b.toNat ∧ b.toNat ≤ p.high
    · refine ⟨b, r, rfl, within.1, within.2, ?_⟩
      rw [← toUInt8_toNat b, decodeFrom_some_cons r b.toNat_lt within.1 within.2] at h
      exact h
    · -- The piece that is cut short stands in front.
      rw [decodeFrom, step, if_neg within] at h
      cases s <;> simp at h

/-- A byte within a character, before its last one. -/
theorem next_of_decodeFrom {bits need low high : Nat} {bytes : List UInt8} {s : List Char}
    (h : decodeFrom (some ⟨bits, need + 2, low, high⟩) bytes = s.map some) (tail : 0x80 ≤ low) :
    ∃ y r, low ≤ 0x80 + y ∧ 0x80 + y ≤ high ∧ bytes = (0x80 + y).toUInt8 :: r ∧
      decodeFrom (some ⟨bits * 0x40 + y, need + 1, 0x80, 0xBF⟩) r = s.map some := by
  obtain ⟨b, r, rfl, above, below, rest⟩ := open_of_decodeFrom h
  dsimp only at above below
  refine ⟨b.toNat - 0x80, r, by omega, by omega, ?_, rest⟩
  rw [Nat.add_sub_cancel' (by omega), toUInt8_toNat]

/-- The last byte of a character. -/
theorem last_of_decodeFrom {bits : Nat} {bytes : List UInt8} {s : List Char}
    (h : decodeFrom (some ⟨bits, 1, 0x80, 0xBF⟩) bytes = s.map some) : ∃ y r s', y < 0x40 ∧
      bytes = (0x80 + y).toUInt8 :: r ∧ s = Char.ofNat (bits * 0x40 + y) :: s' ∧
      decodeFrom none r = s'.map some := by
  obtain ⟨b, r, rfl, low, high, rest⟩ := open_of_decodeFrom h
  dsimp only at low high
  obtain ⟨c, s', rfl, front, rest⟩ := List.map_eq_cons_iff.mp rest.symm
  refine ⟨b.toNat - 0x80, r, s', by omega, ?_, ?_, rest.symm⟩
  · rw [Nat.add_sub_cancel' low, toUInt8_toNat]
  · rw [Option.some.inj front]

/-- The bytes that decode to a text are the ones that it is encoded as. -/
theorem encode_of_decodeFrom (bytes : List UInt8) (s : List Char)
    (h : decodeFrom none bytes = s.map some) : encode s = bytes := by
  cases bytes with
  | nil =>
    rw [decodeFrom] at h
    rw [List.map_eq_nil_iff.mp h.symm]
    rfl
  | cons b r =>
    have byte := toUInt8_toNat b
    have small := b.toNat_lt
    rw [← byte, decodeFrom_none_cons r small] at h
    by_cases one : b.toNat < 0x80
    · rw [first, if_pos one] at h
      obtain ⟨c, s', rfl, front, rest⟩ := List.map_eq_cons_iff.mp h.symm
      have value : c.toNat = b.toNat := by
        rw [Option.some.inj front, toNat_ofNat (by omega)]
      rw [encode, List.flatMap_cons, encodeChar, value, if_pos one, byte, ← encode,
        encode_of_decodeFrom r s' rest.symm]
      rfl
    by_cases two : b.toNat < 0xE0
    · by_cases none : b.toNat < 0xC2
      · rw [first, if_neg one, if_pos none] at h
        cases s <;> simp at h
      rw [first_two (Nat.le_of_not_lt none) two] at h
      obtain ⟨y, r, s', tail, rfl, rfl, rest⟩ := last_of_decodeFrom h
      rw [encode, List.flatMap_cons, encodeChar_two (by omega) (by omega) tail,
        Nat.add_sub_cancel' (by omega), byte, ← encode, encode_of_decodeFrom r s' rest]
      rfl
    by_cases three : b.toNat < 0xF0
    · rw [first_three (Nat.le_of_not_lt two) three] at h
      obtain ⟨y, r, above, below, rfl, second⟩ := next_of_decodeFrom h (by split <;> decide)
      have own : 0x80 + y ≤ 0xBF := by split at below <;> omega
      have e0 : b.toNat = 0xE0 → 0xA0 ≤ 0x80 + y := fun e0 => by rwa [if_pos e0] at above
      have ed : b.toNat = 0xED → 0x80 + y ≤ 0x9F := fun ed => by rwa [if_pos ed] at below
      obtain ⟨z, r, s', tail, rfl, rfl, rest⟩ := last_of_decodeFrom second
      rw [encode, List.flatMap_cons, encodeChar_three (by omega) (by omega) tail (by omega) (by omega),
        Nat.add_sub_cancel' (by omega), byte, ← encode, encode_of_decodeFrom r s' rest]
      rfl
    by_cases four : b.toNat ≤ 0xF4
    · rw [first_four (Nat.le_of_not_lt three) four] at h
      obtain ⟨y, r, above, below, rfl, second⟩ := next_of_decodeFrom h (by split <;> decide)
      have own : 0x80 + y ≤ 0xBF := by split at below <;> omega
      have f0 : b.toNat = 0xF0 → 0x90 ≤ 0x80 + y := fun f0 => by rwa [if_pos f0] at above
      have f4 : b.toNat = 0xF4 → 0x80 + y ≤ 0x8F := fun f4 => by rwa [if_pos f4] at below
      obtain ⟨z, r, above', below', rfl, third⟩ := next_of_decodeFrom second (Nat.le_refl _)
      obtain ⟨u, r, s', tail, rfl, rfl, rest⟩ := last_of_decodeFrom third
      rw [encode, List.flatMap_cons, encodeChar_four (by omega) (by omega) (by omega) tail (by omega)
        (by omega), Nat.add_sub_cancel' (by omega), byte, ← encode, encode_of_decodeFrom r s' rest]
      rfl
    · have cut : first b.toNat = ([none], none) := by
        unfold first
        repeat rw [if_neg (by omega)]
      rw [cut] at h
      cases s <;> simp at h
termination_by bytes.length

theorem pieces_of_mapM {pieces : List (Option Char)} {s : List Char}
    (h : pieces.mapM id = some s) : pieces = s.map some := by
  induction pieces generalizing s with
  | nil => rw [← Option.some.inj h]; rfl
  | cons c pieces ih =>
    rw [List.mapM_cons] at h
    obtain ⟨c', front, back⟩ := Option.bind_eq_some_iff.mp h
    obtain ⟨s', rest, whole⟩ := Option.bind_eq_some_iff.mp back
    rw [← Option.some.inj whole, ih rest, List.map_cons, ← show c = some c' from front]

/-- Exactly the bytes of a text decode to it. -/
theorem decode?_eq_some_iff {bytes : List UInt8} {s : List Char} :
    decode? bytes = some s ↔ bytes = encode s := by
  constructor
  · intro h
    exact (encode_of_decodeFrom bytes s (pieces_of_mapM h)).symm
  · rintro rfl
    exact decode?_encode s

/-- Different texts have different bytes. -/
theorem encode_inj {s t : List Char} : encode s = encode t ↔ s = t := by
  refine ⟨fun same => ?_, congrArg encode⟩
  have back := decode?_encode s
  rw [same, decode?_encode] at back
  exact (Option.some.inj back).symm

theorem length_encode_le {s t : List Char} (h : List.Sublist s t) :
    (encode s).length ≤ (encode t).length := by
  induction h with
  | slnil => exact Nat.le_refl _
  | cons c _ ih =>
    refine Nat.le_trans ih ?_
    simp only [encode, List.flatMap_cons, List.length_append]
    exact Nat.le_add_left _ _
  | cons_cons c _ ih =>
    simp only [encode, List.flatMap_cons, List.length_append] at ih ⊢
    exact Nat.add_le_add_left ih _

end BridgeKeeper.Text.Utf8
