import BridgeKeeper.Probe.Target
import BridgeKeeper.Proofs.Directory.Replies
import BridgeKeeper.Proofs.Json.Numeral

/-!
# When a probe is answered

A probe comes to a code other than zero exactly if the service accepts the request and its reply spells
that code, which has 32 bits. Whatever else comes back, or fails to, stands for zero.
-/
namespace BridgeKeeper

open Json

namespace Probe

open Directory

/-- The reply accepts the request, and its body spells an integer. -/
def Tells (r : Reply) (k : Int) : Prop :=
  ∃ status s, r = .response status (Text.Utf8.encode s) ∧ 200 ≤ status ∧ status ≤ 299 ∧ Spells s k

variable {r : Reply} {k : Int}

theorem tells_iff_carries (other : k ≠ 0) : Tells r k ↔ r.Carries Value.int? k := by
  constructor
  · rintro ⟨status, s, rfl, low, high, spells⟩
    exact ⟨status, _, rfl, ⟨low, by omega⟩, (int?_ofBytes?_iff other).mpr ⟨s, spells, rfl⟩⟩
  · rintro ⟨status, body, rfl, ⟨low, high⟩, integer⟩
    obtain ⟨s, spells, rfl⟩ := (int?_ofBytes?_iff other).mp integer
    exact ⟨status, s, rfl, low, by omega, spells⟩

theorem carries_int32?_iff {x : Int32} :
    r.Carries Value.int32? x ↔ r.Carries Value.int? x.toInt := by
  have same {body : List UInt8} : Json.ofBytes? body >>= Value.int32? = some x ↔
      Json.ofBytes? body >>= Value.int? = some x.toInt := by
    simp only [Option.bind_eq_bind, Option.bind_eq_some_iff, Value.int32?_eq_some_iff]
  simp only [Reply.Carries, same]

theorem code_value_iff {c : Client} {port : UInt16} {x : Int32} (other : x ≠ 0) :
    (code c port r).value = x ↔ r.Carries Value.int32? x := by
  have answered : (c.proxyTest port).answer r = .ok x ↔ r.Carries Value.int32? x :=
    Call.answer_eq_ok_iff
  rw [code, ← answered]
  cases (c.proxyTest port).answer r with
  | ok y => simp [codeOf]
  | error e => simp [codeOf, Code.unreachable, Ne.symm other]

/-- The code of a probe is the integer that the reply spells, where it is of 32 bits and not zero, and
zero in every other case. -/
theorem probe_told_or_zero (c : Client) (port : UInt16) :
    (∀ r k, k ≠ 0 → ((code c port r).value.toInt = k ↔
      Tells r k ∧ -2147483648 ≤ k ∧ k ≤ 2147483647)) ∧
    (∀ r, (∀ k, k ≠ 0 → -2147483648 ≤ k → k ≤ 2147483647 → ¬ Tells r k) →
      code c port r = .unreachable) ∧
    ∀ s t, (send c port s t).1 = code c port (s.replyTo (c.proxyTest port).request t) := by
  have told {r : Reply} {x : Int32} (other : x ≠ 0) :
      (code c port r).value = x ↔ Tells r x.toInt := by
    have nonzero : x.toInt ≠ 0 := fun zero => other (Int32.toInt_inj.mp zero)
    rw [code_value_iff other, carries_int32?_iff, tells_iff_carries nonzero]
  refine ⟨fun r k other => ⟨?_, ?_⟩, fun r none => ?_, fun s t => ?_⟩
  · rintro rfl
    refine ⟨(told fun zero => other ?_).mp rfl, int32_range _⟩
    rw [zero]
    rfl
  · rintro ⟨tells, low, high⟩
    have back : (Int32.ofInt k).toInt = k := Int32.toInt_ofInt_of_le (by omega) (by omega)
    have nonzero : Int32.ofInt k ≠ 0 := fun zero => other (by rw [← back, zero]; rfl)
    rw [(told nonzero).mpr (by rwa [back]), back]
  · by_contra reached
    have other : (code c port r).value ≠ 0 := fun zero =>
      reached (by rw [Code.unreachable, ← zero])
    have range := int32_range (code c port r).value
    refine none _ (fun zero => other (Int32.toInt_inj.mp zero)) range.1 range.2 ?_
    exact (told other).mp rfl
  · rw [code, ← Call.send_fst]
    rfl

/-- The least code, between blanks, and the integer below it. -/
theorem probe_told_or_zero_least :
    let c : Client := ⟨⟨"http".toList, [], [], some (.ipv4 2130706433), none, .segments [[]], none, none⟩⟩
    let reply (body : List Char) : Reply := .response 299 (Text.Utf8.encode body)
    (code c 22 (reply
        ['\t', '-', '2', '1', '4', '7', '4', '8', '3', '6', '4', '8', '\n'])).value.toInt = -2147483648 ∧
      code c 22 (reply ['-', '2', '1', '4', '7', '4', '8', '3', '6', '4', '9']) = .unreachable := by
  intro c reply
  have told := probe_told_or_zero c 22
  constructor
  · have digits : Digits ['2', '1', '4', '7', '4', '8', '3', '6', '4', '8'] :=
      ⟨by decide, List.all_eq_true.mp rfl, by decide⟩
    refine (told.1 _ _ (by decide)).mpr ⟨⟨299, _, rfl, by decide, by decide, ?_⟩, by decide⟩
    exact ⟨['\t'], _, ['\n'], rfl, List.all_eq_true.mp rfl, List.all_eq_true.mp rfl, .minus digits⟩
  · have digits : Digits ['2', '1', '4', '7', '4', '8', '3', '6', '4', '9'] :=
      ⟨by decide, List.all_eq_true.mp rfl, by decide⟩
    refine told.2.1 _ fun k other low _ tells => ?_
    obtain ⟨status, s, same, -, -, spells⟩ := tells
    injection same with _ same
    have less : Spells s (-2147483649) := by
      rw [← Text.Utf8.encode_inj.mp same]
      exact ⟨[], _, [], rfl, by simp, by simp, .minus digits⟩
    have := spells.unique less other (by decide)
    omega

end Probe
end BridgeKeeper
