import BridgeKeeper.Text.Printable
import Mathlib.Data.List.Basic
import Mathlib.Data.List.TakeWhile

/-!
# Texts between characters of one kind

A text has exactly one part that is left when the characters of a kind are taken away at both ends: it
neither begins nor ends with one of them, and there is nothing else around it.
-/
namespace BridgeKeeper.Text

/-- What is left of a text without the characters of a kind at its ends. -/
structure Strips (p : Char → Bool) (s core : List Char) : Prop where
  around : ∃ front back, s = front ++ core ++ back ∧ (∀ c ∈ front, p c = true) ∧
    ∀ c ∈ back, p c = true
  first : ∀ c, core.head? = some c → p c = false
  last : ∀ c, core.getLast? = some c → p c = false

variable {p : Char → Bool} {s core : List Char}

theorem dropWhile_eq_self (first : ∀ c, s.head? = some c → p c = false) : s.dropWhile p = s := by
  cases s with
  | nil => rfl
  | cons c r => rw [List.dropWhile_cons, if_neg (by rw [first c rfl]; decide)]

theorem head?_dropWhile (p : Char → Bool) (s : List Char) (c : Char)
    (h : (s.dropWhile p).head? = some c) : p c = false := by
  have first := List.head?_dropWhile_not p s
  rw [h] at first
  exact first

theorem strips_self (first : ∀ c, s.head? = some c → p c = false)
    (last : ∀ c, s.getLast? = some c → p c = false) : Strips p s s :=
  ⟨⟨[], [], by simp, by simp, by simp⟩, first, last⟩

/-- What is left is found from the front and then from the back. -/
theorem strips_dropWhile (p : Char → Bool) (s : List Char) :
    Strips p s ((s.dropWhile p).reverse.dropWhile p).reverse := by
  have front : s.takeWhile p ++ s.dropWhile p = s := List.takeWhile_append_dropWhile
  have first := head?_dropWhile p s
  generalize s.dropWhile p = rest at front first
  have last := head?_dropWhile p rest.reverse
  have whole : (rest.reverse.dropWhile p).reverse ++ (rest.reverse.takeWhile p).reverse = rest := by
    rw [← List.reverse_append, List.takeWhile_append_dropWhile, List.reverse_reverse]
  constructor
  · refine ⟨s.takeWhile p, (rest.reverse.takeWhile p).reverse, ?_, ?_, ?_⟩
    · rw [List.append_assoc, whole, front]
    · exact fun c there => List.mem_takeWhile_imp there
    · exact fun c there => List.mem_takeWhile_imp (List.mem_reverse.mp there)
  · intro c there
    refine first c ?_
    rw [← whole, List.head?_append, there]
    rfl
  · intro c there
    rw [List.getLast?_reverse] at there
    exact last c there

/-- Nothing else is left. -/
theorem Strips.eq (h : Strips p s core) : ((s.dropWhile p).reverse.dropWhile p).reverse = core := by
  obtain ⟨⟨front, back, rfl, inFront, inBack⟩, first, last⟩ := h
  have behind : ∀ c ∈ back.reverse, p c = true := fun c there => inBack c (List.mem_reverse.mp there)
  rw [List.append_assoc, List.dropWhile_append_of_pos inFront]
  by_cases none : core = []
  · rw [none, List.nil_append, List.dropWhile_eq_nil_iff.mpr inBack]
    rfl
  · have kept : (core ++ back).dropWhile p = core ++ back := by
      refine dropWhile_eq_self fun c there => first c ?_
      rwa [List.head?_append_of_ne_nil core none] at there
    rw [kept, List.reverse_append, List.dropWhile_append_of_pos behind,
      dropWhile_eq_self (by rwa [List.head?_reverse]), List.reverse_reverse]

theorem strips_iff_trim : Strips isWhite s core ↔ trim s = core := by
  constructor
  · exact Strips.eq
  · rintro rfl
    exact strips_dropWhile isWhite s

end BridgeKeeper.Text
