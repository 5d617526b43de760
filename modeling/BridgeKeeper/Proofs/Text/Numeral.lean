import BridgeKeeper.Text.Decimal
import Mathlib.Data.List.Induction
import Mathlib.Data.Nat.Digits.Defs

/-!
# Numerals with zeros in front

A number below 65536 is read from its digits in base ten, with zeros in front or without, and with a plus
sign before them or without. It is read from nothing else.
-/
namespace BridgeKeeper.Text

def figures (ds : List (Fin 10)) : List Char := ds.map fun d => digitChar d.val

def worth (ds : List (Fin 10)) : Nat := Nat.ofDigits 10 (ds.reverse.map Fin.val)

/-- One digit or more, zeros in front allowed, behind an optional plus sign, and what they denote. -/
inductive Numeral : List Char → Nat → Prop
  | plain {ds : List (Fin 10)} : ds ≠ [] → Numeral (figures ds) (worth ds)
  | signed {ds : List (Fin 10)} : ds ≠ [] → Numeral ('+' :: figures ds) (worth ds)

theorem digitChar_digitValue {c : Char} (digit : c.isDigit) :
    digitValue c < 10 ∧ digitChar (digitValue c) = c := by
  have range : 48 ≤ c.toNat ∧ c.toNat ≤ 57 := by
    simpa [Char.isDigit, UInt32.le_iff_toNat_le] using digit
  have small : digitValue c < 10 := by
    rw [digitValue]
    omega
  refine ⟨small, ?_⟩
  rw [digitChar, if_pos small, digitValue, Nat.add_sub_cancel' range.1, Char.ofNat_toNat]

variable {s : List Char} {ds : List (Fin 10)} {n : UInt16}

/-- The induction takes away the last digit, as the reader takes it in last. -/
theorem decimalValue_figures (ds : List (Fin 10)) : decimalValue (figures ds) = worth ds := by
  induction ds using List.reverseRecOn with
  | nil => rfl
  | append_singleton ds d ih =>
    have row : figures (ds ++ [d]) = figures ds ++ [digitChar d] := List.map_append
    have sum : worth (ds ++ [d]) = d + 10 * worth ds := by
      rw [worth, List.reverse_append, List.reverse_singleton, List.singleton_append, List.map_cons,
        Nat.ofDigits_cons, worth]
    rw [row, decimalValue_append_singleton, ih, digitValue_digitChar d.isLt, sum]
    omega

theorem isDigit_of_mem_figures {c : Char} (h : c ∈ figures ds) : c.isDigit := by
  obtain ⟨d, -, rfl⟩ := List.mem_map.mp h
  exact isDigit_digitChar d.isLt

theorem exists_figures (digits : ∀ c ∈ s, c.isDigit) : ∃ ds, s = figures ds := by
  induction s with
  | nil => exact ⟨[], rfl⟩
  | cons c s ih =>
    obtain ⟨small, back⟩ := digitChar_digitValue (digits c List.mem_cons_self)
    obtain ⟨ds, rfl⟩ := ih fun d there => digits d (List.mem_cons_of_mem c there)
    refine ⟨⟨digitValue c, small⟩ :: ds, ?_⟩
    rw [figures, figures, List.map_cons, back]

def Fronts (s row : List Char) : Prop := s = row ∧ row.head? ≠ some '+' ∨ s = '+' :: row

theorem exists_fronts (s : List Char) : ∃ row, Fronts s row := by
  cases s with
  | nil => exact ⟨[], Or.inl ⟨rfl, by simp⟩⟩
  | cons c r =>
    by_cases sign : c = '+'
    · exact ⟨r, Or.inr (by rw [sign])⟩
    · exact ⟨c :: r, Or.inl ⟨rfl, by simpa using sign⟩⟩

theorem fronts_figures {row : List Char} (h : Fronts (figures ds) row) : row = figures ds := by
  rcases h with ⟨same, -⟩ | signed
  · exact same.symm
  · have sign : '+' ∈ figures ds := by
      rw [signed]
      exact List.mem_cons_self
    cases isDigit_of_mem_figures sign

theorem fronts_signed {row r : List Char} (h : Fronts ('+' :: r) row) : row = r := by
  rcases h with ⟨rfl, unsigned⟩ | same
  · exact absurd rfl unsigned
  · exact (List.cons.inj same).2.symm

/-- The number is read from the row alone. -/
theorem word16?_of_fronts {row : List Char} (h : Fronts s row) : word16? s = some n ↔
    row ≠ [] ∧ (∀ c ∈ row, c.isDigit) ∧ decimalValue row = n.toNat := by
  have taken : word16? s = if !row.isEmpty && row.all Char.isDigit && decimalValue row < 65536 then
      some (UInt16.ofNat (decimalValue row)) else none := by
    rcases h with ⟨rfl, unsigned⟩ | rfl
    · rw [word16?]
      rintro r rfl
      exact unsigned rfl
    · rfl
  have fits : (!row.isEmpty && row.all Char.isDigit && decide (decimalValue row < 65536)) = true ↔
      row ≠ [] ∧ (∀ c ∈ row, c.isDigit) ∧ decimalValue row < 65536 := by
    simp [and_assoc]
  simp only [taken, fits, Option.ite_none_right_eq_some, Option.some.injEq]
  constructor
  · rintro ⟨⟨some, digits, small⟩, rfl⟩
    exact ⟨some, digits, (UInt16.toNat_ofNat_of_lt small).symm⟩
  · rintro ⟨some, digits, value⟩
    rw [value]
    exact ⟨⟨some, digits, n.toNat_lt⟩, UInt16.ofNat_toNat⟩

theorem word16?_decimal (n : UInt16) : word16? (decimal n.toNat) = some n := by
  have digits : ∀ c ∈ decimal n.toNat, c.isDigit := fun c => isDigit_of_mem_decimal
  have unsigned : (decimal n.toNat).head? ≠ some '+' := by
    intro sign
    cases digits '+' (List.mem_of_head? sign)
  have fronts : Fronts (decimal n.toNat) (decimal n.toNat) := Or.inl ⟨rfl, unsigned⟩
  exact (word16?_of_fronts fronts).mpr ⟨decimal_ne_nil _, digits, decimalValue_decimal _⟩

theorem word16?_eq_some_iff : word16? s = some n ↔ Numeral s n.toNat := by
  obtain ⟨row, fronts⟩ := exists_fronts s
  rw [word16?_of_fronts fronts]
  constructor
  · rintro ⟨some, digits, value⟩
    obtain ⟨ds, rfl⟩ := exists_figures digits
    have several : ds ≠ [] := by
      rintro rfl
      exact some rfl
    rw [← value, decimalValue_figures]
    rcases fronts with ⟨rfl, -⟩ | rfl
    · exact .plain several
    · exact .signed several
  · intro numeral
    have read {ds : List (Fin 10)} (several : ds ≠ []) (same : row = figures ds)
        (value : worth ds = n.toNat) :
        row ≠ [] ∧ (∀ c ∈ row, c.isDigit) ∧ decimalValue row = n.toNat := by
      subst same
      refine ⟨fun none => several (List.map_eq_nil_iff.mp none), fun c => isDigit_of_mem_figures, ?_⟩
      rw [decimalValue_figures, value]
    generalize n.toNat = k at numeral read ⊢
    cases numeral with
    | plain several => exact read several (fronts_figures fronts) rfl
    | signed several => exact read several (fronts_signed fronts) rfl

end BridgeKeeper.Text
