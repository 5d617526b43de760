import BridgeKeeper.Proofs.Text.Utf8
import BridgeKeeper.Text.Percent

/-!
# Text through percent-encoding

A set that has the percent sign encodes without loss. One that has neither it nor a hexadecimal digit
changes nothing that decoding would tell, so a percent sign of the text itself is read as an escape
where two such digits follow.
-/
namespace BridgeKeeper.Text

theorem hexValue?_upperHexDigit {n : Nat} (h : n < 16) :
    hexValue? (Percent.upperHexDigit n) = some n := by
  have : ∀ k : Fin 16, hexValue? (Percent.upperHexDigit k) = some k.val := by decide
  exact this ⟨n, h⟩

namespace Percent

variable {set : Char → Bool} {c : Char} {s r : List Char}

/-! ## Escapes -/

/-- Two hexadecimal digits at the front, the byte that they stand for, and what follows. -/
inductive Digits : List Char → UInt8 → List Char → Prop
  | mk {a b : Char} {h l : Nat} {r : List Char} : hexValue? a = some h → hexValue? b = some l →
    Digits (a :: b :: r) (h * 16 + l).toUInt8 r

def HasEscape (s : List Char) : Prop :=
  ∃ before a b after, s = before ++ '%' :: a :: b :: after ∧ (hexValue? a).isSome ∧ (hexValue? b).isSome

theorem hasEscape_cons :
    HasEscape (c :: r) ↔ (c = '%' ∧ ∃ b rest, Digits r b rest) ∨ HasEscape r := by
  constructor
  · rintro ⟨before, a, b, after, whole, first, second⟩
    cases before with
    | nil =>
      obtain ⟨rfl, rfl⟩ := List.cons.inj whole
      obtain ⟨h, first⟩ := Option.isSome_iff_exists.mp first
      obtain ⟨l, second⟩ := Option.isSome_iff_exists.mp second
      exact Or.inl ⟨rfl, _, _, .mk first second⟩
    | cons d before =>
      obtain ⟨-, rfl⟩ := List.cons.inj whole
      exact Or.inr ⟨before, a, b, after, rfl, first, second⟩
  · rintro (⟨rfl, _, _, first, second⟩ | ⟨before, a, b, after, rfl, digits⟩)
    · exact ⟨[], _, _, _, rfl, by rw [first]; rfl, by rw [second]; rfl⟩
    · exact ⟨c :: before, a, b, after, rfl, digits⟩

theorem not_hasEscape_nil : ¬ HasEscape [] := by
  rintro ⟨before, a, b, after, whole, -⟩
  cases before <;> cases whole

theorem HasEscape.mem (h : HasEscape s) : '%' ∈ s := by
  obtain ⟨before, a, b, after, rfl, -⟩ := h
  exact List.mem_append_right _ List.mem_cons_self

theorem decode_escape {b : UInt8} {rest : List Char} (h : Digits r b rest) :
    decode ('%' :: r) = b :: decode rest := by
  obtain ⟨first, second⟩ := h
  rw [decode, first, second]

/-- What begins no escape stands for its own bytes. -/
theorem decode_cons (plain : ¬ (c = '%' ∧ ∃ b rest, Digits r b rest)) :
    decode (c :: r) = Utf8.encodeChar c ++ decode r := by
  by_cases percent : c = '%'
  · subst percent
    match r with
    | [] | [_] => rfl
    | a :: b :: r =>
      rw [decode]
      cases first : hexValue? a with
      | none => rfl
      | some h =>
        cases second : hexValue? b with
        | none => rfl
        | some l => exact absurd ⟨rfl, _, _, .mk first second⟩ plain
  · rw [decode]
    exact fun _ _ _ same _ => percent same

/-- Each escape makes the text shorter; without one, decoding gives its bytes. -/
theorem decode_cases (s : List Char) :
    ¬ HasEscape s ∧ decode s = Utf8.encode s ∨
      HasEscape s ∧ (decode s).length < (Utf8.encode s).length := by
  match s with
  | [] => exact Or.inl ⟨not_hasEscape_nil, rfl⟩
  | c :: r =>
    rw [Utf8.encode, List.flatMap_cons, ← Utf8.encode]
    by_cases escape : c = '%' ∧ ∃ b rest, Digits r b rest
    · refine Or.inr ⟨hasEscape_cons.mpr (Or.inl escape), ?_⟩
      obtain ⟨rfl, _, rest, digits⟩ := escape
      rw [decode_escape digits]
      cases digits with
      | @mk a d =>
        have shorter : (decode rest).length ≤ (Utf8.encode rest).length := by
          rcases decode_cases rest with ⟨-, whole⟩ | ⟨-, shorter⟩
          · exact Nat.le_of_eq (congrArg List.length whole)
          · exact Nat.le_of_lt shorter
        have sign := Utf8.length_encodeChar_pos '%'
        have high := Utf8.length_encodeChar_pos a
        have low := Utf8.length_encodeChar_pos d
        simp only [Utf8.encode, List.flatMap_cons, List.length_append, List.length_cons] at shorter ⊢
        omega
    · rw [decode_cons escape, hasEscape_cons, or_iff_right escape]
      rcases decode_cases r with ⟨without, whole⟩ | ⟨within, shorter⟩
      · exact Or.inl ⟨without, by rw [whole]⟩
      · refine Or.inr ⟨within, ?_⟩
        rw [List.length_append, List.length_append]
        exact Nat.add_lt_add_left shorter _
termination_by s.length

/-! ## Encoded text -/

theorem decode_escapeByte (b : UInt8) (r : List Char) : decode (escapeByte b ++ r) = b :: decode r := by
  have small := b.toNat_lt
  have digits : Digits ([upperHexDigit (b.toNat / 16), upperHexDigit (b.toNat % 16)] ++ r)
      (b.toNat / 16 * 16 + b.toNat % 16).toUInt8 r :=
    .mk (hexValue?_upperHexDigit (by omega)) (hexValue?_upperHexDigit (by omega))
  rw [Nat.div_add_mod', Utf8.toUInt8_toNat] at digits
  exact decode_escape digits

theorem decode_escapeBytes (bytes : List UInt8) (r : List Char) :
    decode (bytes.flatMap escapeByte ++ r) = bytes ++ decode r := by
  induction bytes with
  | nil => rfl
  | cons b bytes ih =>
    rw [List.flatMap_cons, List.append_assoc, decode_escapeByte, ih, List.cons_append]

theorem encodeChar_cases (set : Char → Bool) (c : Char) :
    (c.toNat < 0x80 ∧ set c = false) ∧ encodeChar set c = [c] ∨
      ¬ (c.toNat < 0x80 ∧ set c = false) ∧
        encodeChar set c = (Utf8.encodeChar c).flatMap escapeByte := by
  by_cases kept : c.toNat < 0x80 ∧ set c = false
  · exact Or.inl ⟨kept, by simp [encodeChar, kept]⟩
  · refine Or.inr ⟨kept, ?_⟩
    rw [encodeChar, if_neg]
    simpa using kept

/-- A character that is encoded stands for its bytes, if a percent sign is escaped. -/
theorem decode_encodeChar (escaped : c = '%' → set '%' = true) (r : List Char) :
    decode (encodeChar set c ++ r) = Utf8.encodeChar c ++ decode r := by
  rcases encodeChar_cases set c with ⟨⟨-, kept⟩, same⟩ | ⟨-, same⟩
  · rw [same, List.singleton_append, decode_cons]
    rintro ⟨rfl, -⟩
    rw [escaped rfl] at kept
    cases kept
  · rw [same, decode_escapeBytes]

/-- Where percent signs are escaped, the text comes back. -/
theorem decode_encode (escaped : set '%' = true) (s : List Char) :
    decode (encode set s) = Utf8.encode s := by
  induction s with
  | nil => rfl
  | cons c s ih =>
    rw [encode, List.flatMap_cons, decode_encodeChar fun _ => escaped, ← encode, ih]
    rfl

/-- A hexadecimal digit at the front of what is encoded was there before. -/
theorem encode_eq_cons {x : Char} {t : List Char} (h : encode set s = x :: t)
    (digit : (hexValue? x).isSome) : ∃ r, s = x :: r ∧ t = encode set r := by
  cases s with
  | nil => cases h
  | cons c r =>
    rw [encode, List.flatMap_cons, ← encode] at h
    rcases encodeChar_cases set c with ⟨-, same⟩ | ⟨-, same⟩
    · rw [same] at h
      obtain ⟨rfl, rfl⟩ := List.cons.inj h
      exact ⟨r, rfl, rfl⟩
    · obtain ⟨b, bytes, some⟩ := List.exists_cons_of_length_pos (Utf8.length_encodeChar_pos c)
      rw [same, some] at h
      rw [← (List.cons.inj h).1] at digit
      cases digit

/-- A set that changes neither percent signs nor the digits of escapes. -/
structure Keeps (set : Char → Bool) : Prop where
  percent : set '%' = false
  digits {c : Char} : (hexValue? c).isSome → c.toNat < 0x80 ∧ set c = false

theorem Keeps.encodeChar (h : Keeps set) (kept : (hexValue? c).isSome ∨ c = '%') :
    encodeChar set c = [c] := by
  have plain : c.toNat < 0x80 ∧ set c = false := by
    rcases kept with digit | rfl
    · exact h.digits digit
    · exact ⟨by decide, h.percent⟩
  exact ((encodeChar_cases set c).resolve_right fun other => other.1 plain).2

/-- Digits at the front of what such a set encodes were there before. -/
theorem Digits.of_encode {b : UInt8} {rest : List Char} (h : Digits (encode set r) b rest) :
    ∃ rest, Digits r b rest := by
  generalize encoded : encode set r = t at h
  obtain ⟨first, second⟩ := h
  obtain ⟨r, rfl, left⟩ := encode_eq_cons encoded (by rw [first]; rfl)
  obtain ⟨rest, rfl, -⟩ := encode_eq_cons left.symm (by rw [second]; rfl)
  exact ⟨rest, .mk first second⟩

/-- Such a set changes nothing that decoding tells. -/
theorem Keeps.decode_encode (h : Keeps set) (s : List Char) : decode (encode set s) = decode s := by
  match s with
  | [] => rfl
  | c :: r =>
    rw [encode, List.flatMap_cons, ← encode]
    by_cases escape : c = '%' ∧ ∃ b rest, Digits r b rest
    · obtain ⟨rfl, b, rest, there⟩ := escape
      rw [decode_escape there, h.encodeChar (Or.inr rfl), List.singleton_append]
      cases there with
      | @mk x y _ _ _ first second =>
        have same : encode set (x :: y :: rest) = x :: y :: encode set rest := by
          simp only [encode, List.flatMap_cons]
          rw [h.encodeChar (Or.inl (by rw [first]; rfl)), h.encodeChar (Or.inl (by rw [second]; rfl))]
          rfl
        rw [same, decode_escape (.mk first second), h.decode_encode rest]
    · rw [decode_cons escape, ← h.decode_encode r]
      by_cases percent : c = '%'
      · rw [percent, h.encodeChar (Or.inr rfl), List.singleton_append, decode_cons]
        rintro ⟨-, b, rest, there⟩
        exact escape ⟨percent, b, there.of_encode⟩
      · exact decode_encodeChar (fun same => absurd same percent) _
termination_by s.length

theorem hexValue?_ascii (h : (hexValue? c).isSome) : c.toNat < 0x80 := by
  rw [hexValue?] at h
  split at h
  · next digit => exact Nat.lt_of_le_of_lt (of_decide_eq_true ((Bool.and_eq_true _ _).mp digit).2) (by decide)
  · split at h
    · next lower =>
      exact Nat.lt_of_le_of_lt (of_decide_eq_true ((Bool.and_eq_true _ _).mp lower).2) (by decide)
    · split at h
      · next upper =>
        exact Nat.lt_of_le_of_lt (of_decide_eq_true ((Bool.and_eq_true _ _).mp upper).2) (by decide)
      · cases h

theorem keeps_of_ascii (percent : set '%' = false)
    (digits : ∀ n < 0x80, (hexValue? (Char.ofNat n)).isSome → set (Char.ofNat n) = false) : Keeps set where
  percent := percent
  digits {c} h := by
    have ascii := hexValue?_ascii h
    have kept := digits c.toNat ascii
    rw [Char.ofNat_toNat] at kept
    exact ⟨ascii, kept h⟩

theorem keeps_isControl : Keeps isControl := keeps_of_ascii rfl (by decide)

theorem keeps_inFragment : Keeps inFragment := keeps_of_ascii rfl (by decide)

/-! ## What encoded text is made of -/

def escapeChars : List Char := "%0123456789ABCDEF".toList

theorem mem_escapeByte {b : UInt8} (h : c ∈ escapeByte b) : c ∈ escapeChars := by
  have digit {n : Nat} (small : n < 16) : upperHexDigit n ∈ escapeChars := by
    have : ∀ k : Fin 16, upperHexDigit k ∈ escapeChars := by decide
    exact this ⟨n, small⟩
  have small := b.toNat_lt
  simp only [escapeByte, List.mem_cons, List.not_mem_nil, or_false] at h
  rcases h with rfl | rfl | rfl
  · decide
  · exact digit (by omega)
  · exact digit (by omega)

/-- What holds of the characters of escapes, and of those of a text that a set does not have, holds of
all that is encoded. -/
theorem forall_mem_encode {P : Char → Prop} [DecidablePred P] (escape : escapeChars.all (P ·) = true)
    (kept : ∀ c ∈ s, c.toNat < 0x80 → set c = false → P c) : ∀ c ∈ encode set s, P c := by
  intro c there
  obtain ⟨d, within, there⟩ := List.mem_flatMap.mp there
  rcases encodeChar_cases set d with ⟨⟨ascii, plain⟩, same⟩ | ⟨-, same⟩
  · rw [same, List.mem_singleton] at there
    exact there ▸ kept d within ascii plain
  · rw [same] at there
    obtain ⟨b, -, there⟩ := List.mem_flatMap.mp there
    exact of_decide_eq_true (List.all_eq_true.mp escape c (mem_escapeByte there))

theorem encode_eq_self (h : ∀ c ∈ s, c.toNat < 0x80 ∧ set c = false) : encode set s = s := by
  induction s with
  | nil => rfl
  | cons c s ih =>
    obtain ⟨own, others⟩ := List.forall_mem_cons.mp h
    have same := ((encodeChar_cases set c).resolve_right fun other => other.1 own).2
    rw [encode, List.flatMap_cons, same, ← encode, ih others]
    rfl

/-- What is encoded already stays as it is. -/
theorem Keeps.encode_encode (h : Keeps set) (s : List Char) : encode set (encode set s) = encode set s := by
  refine encode_eq_self (forall_mem_encode ?_ fun _ _ ascii plain => ⟨ascii, plain⟩)
  have known : escapeChars.all (fun c => c = '%' ∨ (hexValue? c).isSome) = true := by decide
  refine List.all_eq_true.mpr fun c there => decide_eq_true ?_
  rcases of_decide_eq_true (List.all_eq_true.mp known c there) with rfl | digit
  · exact ⟨by decide, h.percent⟩
  · exact h.digits digit

end Percent
end BridgeKeeper.Text
