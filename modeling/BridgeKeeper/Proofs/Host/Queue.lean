import BridgeKeeper.Host.Sharing
import BridgeKeeper.Proofs.Host.Atomic

/-!
# Who holds the lock of a store

The calls that store hosts take the lock one at a time, each of them once. What is to be stored is
noted in the order in which the lock is taken, and stays noted.
-/
namespace BridgeKeeper.Host

open Disk

def StoreCall.reads : StoreCall → Bool
  | upsert _ => false
  | hosts _ | rules _ => true

def StorePhase.holds : StorePhase → Bool
  | locked _ | saving _ => true
  | called _ | done _ => false

/-- What the answer to a reading call says depends on the text at the path alone. -/
theorem StoreCall.alone_eq_of_readText {c : StoreCall} (reads : c.reads = true) {p : Path}
    {y z : Disk} (same : y.readText p = z.readText p) (time time' : String) :
    (c.alone p time y).1 = (c.alone p time' z).1 := by
  have loaded : (Disk.load Book.ofJson? p time y).1 = (Disk.load Book.ofJson? p time' z).1 := by
    rw [load_fst, load_fst, same]
  cases c with
  | upsert s => cases reads
  | hosts only =>
    simp only [alone, Store.hosts, Store.load_eq]
    rw [loaded]
  | rules nickname =>
    simp only [alone, Store.rules, Store.load_eq]
    rw [loaded]

namespace Sharing

variable {x : Sharing} {k : CallId} {cs : List StoreCall}

/-- All that a step of a call can do. -/
inductive Turn (x : Sharing) (k : CallId) : Sharing → Prop
  | rests : Turn x k x
  | locks {s : Stored} : x.phases k = some (.called (.upsert s)) → x.holder = none →
    Turn x k ({ x with holder := some k, order := x.order ++ [(k, s)] }.setPhase k (.locked s))
  | reads {c : StoreCall} (time : String) : x.phases k = some (.called c) → c.reads = true →
    Turn x k ({ x with disk := (Disk.load Book.ofJson? x.path time x.disk).2 }.setPhase k
      (.done (c.alone x.path time x.disk).1))
  | loads {s : Stored} {b : Book} (time : String) : x.phases k = some (.locked s) →
    (Store.load x.path time x.disk).1 = .ok b →
    Turn x k ({ x with disk := (Disk.load Book.ofJson? x.path time x.disk).2 }.setPhase k
      (.saving (saveSteps x.path (saveBytes (b.upsert s).toJson))))
  | refused {s : Stored} {e : StorageError} (time : String) : x.phases k = some (.locked s) →
    (Store.load x.path time x.disk).1 = .error e →
    Turn x k ({ x with disk := (Disk.load Book.ofJson? x.path time x.disk).2 }.unlock k (.error e))
  | goes {s : SaveStep} {rest : List SaveStep} {d : Disk} :
    x.phases k = some (.saving (s :: rest)) → s.apply x.disk = (.ok (), d) →
    Turn x k ({ x with disk := d }.setPhase k (.saving rest))
  | fails {s : SaveStep} {rest : List SaveStep} {d : Disk} {e : IoError} :
    x.phases k = some (.saving (s :: rest)) → s.apply x.disk = (.error e, d) →
    Turn x k ({ x with disk := d }.unlock k (.error (.io e)))
  | ends : x.phases k = some (.saving []) → Turn x k (x.unlock k (.ok ()))

def asked (es : List Event) : List StoreCall :=
  es.filterMap fun
    | .call c => some c
    | .step _ _ => none

/-- A phase after one call went on. -/
theorem put_phase_eq_some {f : CallId → Option StorePhase} {j : CallId} {ph ph' : StorePhase} :
    put f k (some ph) j = some ph' ↔ j = k ∧ ph = ph' ∨ j ≠ k ∧ f j = some ph' := by
  by_cases same : j = k
  · simp [same, put_same]
  · simp [same, put_other]

/-- The calls that store hosts and are past waiting are noted, each of them once. -/
structure Queued (cs : List StoreCall) (x : Sharing) : Prop where
  called : x.called = cs.length
  ahead {k : CallId} : x.called ≤ k → x.phases k = none
  waits {k : CallId} {c : StoreCall} : x.phases k = some (.called c) → cs[k]? = some c
  holds {k : CallId} {ph : StorePhase} : x.phases k = some ph → ph.holds = true → x.holder = some k
  entered {k : CallId} {s : Stored} : (k, s) ∈ x.order ↔
    cs[k]? = some (.upsert s) ∧ x.phases k ≠ some (.called (.upsert s))
  distinct : (x.order.map Prod.fst).Nodup

namespace Queued

theorem empty (d : Disk) (p : Path) : Queued [] { disk := d, path := p } where
  called := rfl
  ahead _ := rfl
  waits h := by cases h
  holds h := by cases h
  entered := by simp
  distinct := List.nodup_nil

theorem call (h : Queued cs x) (c : StoreCall) : Queued (cs ++ [c]) (x.apply (.call c)) := by
  have own : (cs ++ [c])[x.called]? = some c := by simp [h.called]
  have others : ∀ j, j ≠ x.called → (cs ++ [c])[j]? = cs[j]? := by
    intro j other
    rw [h.called] at other
    by_cases before : j < cs.length
    · exact List.getElem?_append_left before
    · have past : cs.length + 1 ≤ j := by omega
      have short : (cs ++ [c]).length ≤ j := by simpa using past
      rw [List.getElem?_eq_none short, List.getElem?_eq_none (by omega)]
  refine ⟨?_, fun {j} far => ?_, fun {j c'} phase => ?_, fun {j ph} phase holding => ?_,
    fun {j s} => ?_, h.distinct⟩
  · simp [apply, h.called]
  · have far : x.called < j := far
    exact (put_other _ _ (Nat.ne_of_gt far)).trans (h.ahead (Nat.le_of_lt far))
  · rcases put_phase_eq_some.mp phase with ⟨rfl, same⟩ | ⟨other, phase⟩
    · cases same
      exact own
    · rw [others j other]
      exact h.waits phase
  · rcases put_phase_eq_some.mp phase with ⟨rfl, same⟩ | ⟨other, phase⟩
    · rw [← same] at holding
      cases holding
    · exact h.holds phase holding
  · change (j, s) ∈ x.order ↔ _ ∧ put x.phases x.called _ j ≠ _
    by_cases new : j = x.called
    · rw [new, own, put_same]
      constructor
      · intro there
        have known := (h.entered.mp there).1
        rw [h.called, List.getElem?_eq_none (Nat.le_refl _)] at known
        cases known
      · rintro ⟨same, other⟩
        cases same
        exact absurd rfl other
    · rw [others j new, put_other _ _ new]
      exact h.entered

/-- A call that is past waiting, or only reads, goes on. -/
theorem goOn (h : Queued cs x) (there : x.phases k ≠ none)
    (ready : ∀ s, x.phases k ≠ some (.called (.upsert s))) {ph : StorePhase}
    (past : ∀ c, ph ≠ .called c) {d : Disk} {holder : Option CallId}
    (holding : ∀ j ph', put x.phases k (some ph) j = some ph' → ph'.holds = true →
      holder = some j) :
    Queued cs ({ x with disk := d, holder := holder }.setPhase k ph) := by
  refine ⟨h.called, fun {j} far => ?_, fun {j c} phase => ?_, fun {j ph'} => holding j ph',
    fun {j s} => ?_, h.distinct⟩
  · have other : j ≠ k := by
      rintro rfl
      exact there (h.ahead far)
    exact (put_other _ _ other).trans (h.ahead far)
  · rcases put_phase_eq_some.mp phase with ⟨-, same⟩ | ⟨-, phase⟩
    · exact absurd same (past c)
    · exact h.waits phase
  · refine h.entered.trans (and_congr_right fun own => ?_)
    change x.phases j ≠ _ ↔ put x.phases k _ j ≠ _
    by_cases same : j = k
    · rw [same, put_same]
      refine iff_of_true (ready s) fun waiting => ?_
      exact past _ (Option.some.inj waiting)
    · rw [put_other _ _ same]

theorem locks (h : Queued cs x) {s : Stored} (phase : x.phases k = some (.called (.upsert s)))
    (free : x.holder = none) :
    Queued cs
      ({ x with holder := some k, order := x.order ++ [(k, s)] }.setPhase k (.locked s)) := by
  have own := h.waits phase
  have new : ∀ s', (k, s') ∉ x.order := by
    intro s' there
    obtain ⟨own', past⟩ := h.entered.mp there
    rw [own, Option.some.injEq, StoreCall.upsert.injEq] at own'
    rw [← own'] at past
    exact past phase
  refine ⟨h.called, fun {j} far => ?_, fun {j c} there => ?_, fun {j ph} there holding => ?_,
    fun {j s'} => ?_, ?_⟩
  · have other : j ≠ k := by
      rintro rfl
      rw [h.ahead far] at phase
      cases phase
    exact (put_other _ _ other).trans (h.ahead far)
  · rcases put_phase_eq_some.mp there with ⟨-, same⟩ | ⟨-, there⟩
    · cases same
    · exact h.waits there
  · rcases put_phase_eq_some.mp there with ⟨rfl, -⟩ | ⟨-, there⟩
    · rfl
    · rw [h.holds there holding] at free
      cases free
  · change (j, s') ∈ x.order ++ [(k, s)] ↔ _ ∧ put x.phases k _ j ≠ _
    rw [List.mem_append, List.mem_singleton]
    by_cases same : j = k
    · rw [same, put_same, own]
      constructor
      · rintro (there | last)
        · exact absurd there (new s')
        · cases last
          exact ⟨rfl, by simp⟩
      · rintro ⟨same, -⟩
        cases same
        exact Or.inr rfl
    · rw [put_other _ _ same, ← h.entered]
      simp [same]
  · change ((x.order ++ [(k, s)]).map Prod.fst).Nodup
    rw [List.map_append, List.nodup_append]
    refine ⟨h.distinct, List.pairwise_singleton _ _, ?_⟩
    intro j there j' last same
    obtain ⟨⟨i, s'⟩, noted, rfl⟩ := List.mem_map.mp there
    rw [List.map_singleton, List.mem_singleton] at last
    have twice : i = k := same.trans last
    rw [twice] at noted
    exact new s' noted

/-- The holder of the lock goes on and keeps it. -/
theorem keeps (h : Queued cs x) {ph ph' : StorePhase} (phase : x.phases k = some ph)
    (holding : ph.holds = true) (past : ∀ c, ph' ≠ .called c) (d : Disk) :
    Queued cs ({ x with disk := d }.setPhase k ph') := by
  refine h.goOn (by simp [phase]) (fun s => ?_) past fun j ph' there holds => ?_
  · rw [phase]
    rintro waiting
    rw [Option.some.inj waiting] at holding
    cases holding
  · rcases put_phase_eq_some.mp there with ⟨rfl, -⟩ | ⟨-, there⟩
    · exact h.holds phase holding
    · exact h.holds there holds

/-- The holder of the lock gives it back. -/
theorem unlock (h : Queued cs x) {ph : StorePhase} (phase : x.phases k = some ph)
    (holding : ph.holds = true) (d : Disk) (r : Except StorageError Unit) :
    Queued cs ({ x with disk := d }.unlock k r) := by
  refine h.goOn (by simp [phase]) (fun s => ?_) (by simp) fun j ph' there holds => ?_
  · rw [phase]
    rintro waiting
    rw [Option.some.inj waiting] at holding
    cases holding
  · rcases put_phase_eq_some.mp there with ⟨rfl, same⟩ | ⟨other, there⟩
    · rw [← same] at holds
      cases holds
    · have mine := h.holds phase holding
      rw [h.holds there holds] at mine
      exact absurd (Option.some.inj mine) other

theorem turn {x' : Sharing} (h : Queued cs x) (turn : Turn x k x') : Queued cs x' := by
  cases turn with
  | rests => exact h
  | locks phase free => exact h.locks phase free
  | @reads c time phase reads =>
    refine h.goOn (by simp [phase]) (fun s => ?_) (by simp) fun j ph there holding => ?_
    · rw [phase]
      rintro waiting
      cases waiting
      cases reads
    · rcases put_phase_eq_some.mp there with ⟨-, rfl⟩ | ⟨-, there⟩
      · cases holding
      · exact h.holds there holding
  | loads time phase read => exact h.keeps phase rfl (by simp) _
  | refused time phase read => exact h.unlock phase rfl _ _
  | goes phase applied => exact h.keeps phase rfl (by simp) _
  | fails phase applied => exact h.unlock phase rfl _ _
  | ends phase => exact h.unlock phase rfl x.disk _

end Queued
end Sharing
end BridgeKeeper.Host
