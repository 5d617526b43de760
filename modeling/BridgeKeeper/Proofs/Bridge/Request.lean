import BridgeKeeper.Bridge.Basic
import BridgeKeeper.Proofs.Outcome

/-!
# What a request is checked for

The check of a request passes exactly the requests with which the transport may be called: those
whose host, ports and rules can be used.
-/
namespace BridgeKeeper

/-- A rule that can be applied: it has two ports and a destination. -/
def Forward.Rule.Usable (r : Forward.Rule) : Prop :=
  r.sourcePort ≠ 0 ∧ r.destinationPort ≠ 0 ∧ Text.isBlank r.destinationHost = false

theorem Forward.Rule.check_eq_ok_iff {r : Forward.Rule} : r.check = .ok () ↔ r.Usable := by
  rw [check, Usable]
  split
  · next zero =>
    constructor
    · intro h
      cases h
    · rintro ⟨source, destination, -⟩
      exact absurd zero (not_or.mpr ⟨source, destination⟩)
  · next ports =>
    obtain ⟨source, destination⟩ := not_or.mp ports
    cases blank : Text.isBlank r.destinationHost with
    | true => simp
    | false => simp [source, destination]

def Credentials.Usable (c : Credentials) : Prop :=
  Text.isBlank c.host = false ∧ c.port ≠ 0 ∧ ∀ r ∈ c.rules, r.Usable

theorem Credentials.checkRules_eq_ok_iff (rules : List Forward.Rule) :
    (rules.forM fun r => r.check.mapError Fault.rule) = .ok () ↔ ∀ r ∈ rules, r.Usable := by
  induction rules with
  | nil => simp [pure, Except.pure]
  | cons r rules ih =>
    rw [List.forM, List.forall_mem_cons, ← Forward.Rule.check_eq_ok_iff, ← ih]
    cases r.check with
    | error fault =>
      constructor
      · intro h
        cases h
      · rintro ⟨h, -⟩
        cases h
    | ok u =>
      constructor
      · intro h
        exact ⟨rfl, h⟩
      · rintro ⟨-, h⟩
        exact h

theorem Credentials.check_eq_ok_iff {c : Credentials} : c.check = .ok () ↔ c.Usable := by
  rw [check, Usable, ← checkRules_eq_ok_iff]
  cases blank : Text.isBlank c.host with
  | true => simp
  | false =>
    by_cases port : c.port = 0
    · simp [port]
    · simp [port]

namespace Bridge

def Call.Usable (c : Call) : Prop := c.credentials.Usable ∧ ∀ rule ∈ c.rule, rule.Usable

/-- The check of a request passes exactly what the transport may be called with. -/
theorem Request.check_eq_ok_iff {r : Request} (i : Identity) :
    r.check = .ok () ↔ Call.Usable ⟨i, r.credentials, r.rule⟩ := by
  rw [check, Call.Usable, ← Credentials.check_eq_ok_iff]
  cases r.credentials.check with
  | error fault => simp
  | ok u =>
    cases r.rule with
    | none => simp
    | some rule =>
      simp only [Option.mem_some_iff, forall_eq', ← Forward.Rule.check_eq_ok_iff, true_and]
      exact mapError_eq_ok_iff

end Bridge
end BridgeKeeper
