import BridgeKeeper.Probe.Target
import BridgeKeeper.Proofs.Text.Ends
import BridgeKeeper.Proofs.Text.Numeral

/-!
# The port that a nickname gives

The nickname of a rule gives the port to probe if there is nothing else in it than the digits of that
port, in base ten, with as many zeros in front as may be and perhaps a plus sign before them, and white
space around. Whatever else the nickname is, the default port is probed.
-/
namespace BridgeKeeper.Probe

open Text

/-- Without the white space around it, the text is the numeral of a number from 1 to 65535. -/
def NamesPort (s : List Char) (n : Nat) : Prop :=
  ∃ core, Strips isWhite s core ∧ Numeral core n ∧ 1 ≤ n ∧ n ≤ 65535

theorem namesPort_iff_trim {s : List Char} {n : Nat} :
    NamesPort s n ↔ Numeral (trim s) n ∧ 1 ≤ n ∧ n ≤ 65535 := by
  constructor
  · rintro ⟨core, strips, named⟩
    rwa [strips_iff_trim.mp strips]
  · intro named
    exact ⟨trim s, strips_iff_trim.mpr rfl, named⟩

theorem portOf?_trim_eq_some_iff {s : List Char} {p : UInt16} :
    portOf? (trim s) = some p ↔ NamesPort s p.toNat := by
  have positive : (p != 0) = true ↔ 1 ≤ p.toNat := by
    rw [bne_iff_ne, Nat.one_le_iff_ne_zero, ne_eq, ne_eq, ← UInt16.toNat_inj]
    rfl
  have small : p.toNat ≤ 65535 := Nat.le_of_lt_succ p.toNat_lt
  rw [portOf?, Option.filter_eq_some_iff, word16?_eq_some_iff, positive, namesPort_iff_trim]
  exact and_congr_right fun _ => (and_iff_left small).symm

theorem NamesPort.read {s : List Char} {n : Nat} (named : NamesPort s n) :
    portOf? (trim s) = some (UInt16.ofNat n) ∧ (UInt16.ofNat n).toNat = n := by
  obtain ⟨-, -, -, -, small⟩ := id named
  have back : (UInt16.ofNat n).toNat = n := UInt16.toNat_ofNat_of_lt (Nat.lt_succ_of_le small)
  exact ⟨portOf?_trim_eq_some_iff.mpr (back.symm ▸ named), back⟩

theorem portOf?_trim_eq_none_iff {s : List Char} :
    portOf? (trim s) = none ↔ ∀ n, ¬ NamesPort s n := by
  constructor
  · intro none n named
    rw [named.read.1] at none
    cases none
  · intro unnamed
    by_contra some
    obtain ⟨p, read⟩ := Option.ne_none_iff_exists'.mp some
    exact unnamed p.toNat (portOf?_trim_eq_some_iff.mp read)

/-- The port that is probed is the one that the nickname of the rule names, if it names one, and the
default port if it names none. -/
theorem port_named_or_default (r : Forward.Rule) (default : UInt16) :
    (∀ n, NamesPort r.nickname.toList n → (target r default).toNat = n) ∧
      ((∀ n, ¬ NamesPort r.nickname.toList n) → target r default = default) := by
  constructor
  · intro n named
    obtain ⟨read, back⟩ := named.read
    rw [target, read, Option.getD_some, back]
  · intro unnamed
    rw [target, portOf?_trim_eq_none_iff.mpr unnamed, Option.getD_none]

/-- The greatest port, with zeros, a sign and wide blanks, and the number above it. -/
theorem port_named_or_default_bounds :
    (target ⟨"\u3000+000065535\u00a0", false, 8080, "localhost", 80⟩ 1022).toNat = 65535 ∧
      target ⟨"00065536", false, 8080, "localhost", 80⟩ 1022 = 1022 := by
  constructor
  · refine (port_named_or_default _ 1022).1 65535 (namesPort_iff_trim.mpr ⟨?_, by decide, by decide⟩)
    exact @Numeral.signed [0, 0, 0, 0, 6, 5, 5, 3, 5] (by decide)
  · exact (port_named_or_default _ 1022).2 (portOf?_trim_eq_none_iff.mp (by decide))

/-- Nothing, a sign alone, two signs, a minus sign, a blank inside, digits of another script, zero. -/
example : ["", "+", "++22", "-22", "2 2", "\u0662\u0662", "00"].map (fun s => portOf? (trim s.toList)) =
    List.replicate 7 none := by decide

end BridgeKeeper.Probe
