import BridgeKeeper.Proofs.Host.Serial

/-!
# No host that is stored gets lost

The disk that callers at once leave is followed through every step and compared with the one on which
hosts are stored in turn. So the file comes out as if the hosts had been stored one after another in
the order of the lock, each with the result it has then, and what is read is the file after some of
them.
-/
namespace BridgeKeeper.Host.Sharing

open Disk

variable {d y : Disk} {p : Path} {time : String} {s : Stored} {k : CallId}
  {cs : List StoreCall} {x : Sharing} {before : List (CallId × Stored)}

/-- How a store with many callers stands to hosts that are stored in turn. -/
structure Tracked (d : Disk) (p : Path) (time : String) (cs : List StoreCall) (x : Sharing) :
    Prop where
  path : x.path = p
  idle : x.holder = none → Alike p x.disk (serial p time d x.order)
  held {k : CallId} : x.holder = some k → ∃ before s, x.order = before ++ [(k, s)] ∧
    Holding p time (serial p time d before) s x.disk (x.phases k)
  stored {n : Nat} {k : CallId} {s : Stored} {r : Except StorageError Unit} :
    x.order[n]? = some (k, s) → x.phases k = some (.done (.stored r)) →
    r.isOk = (Store.upsert p time s (serial p time d (x.order.take n))).1.isOk
  read {k : CallId} {c : StoreCall} {a : StoreAnswer} : cs[k]? = some c → c.reads = true →
    x.phases k = some (.done a) → Unfailing d p time x.order → Sees d p time x.order c a

/-- The call that took the lock last is noted once. -/
theorem unique_last (distinct : ((before ++ [(k, s)]).map Prod.fst).Nodup) {n : Nat} {s' : Stored}
    (there : (before ++ [(k, s)])[n]? = some (k, s')) : n = before.length ∧ s' = s := by
  rw [List.map_append, List.nodup_append] at distinct
  by_cases early : n < before.length
  · rw [List.getElem?_append_left early] at there
    have mem := List.mem_map_of_mem (f := Prod.fst) (List.mem_of_getElem? there)
    exact absurd rfl (distinct.2.2 _ mem k (by simp))
  · rw [List.getElem?_append_right (Nat.not_lt.mp early)] at there
    have last := (List.getElem?_eq_some_iff.mp there).1
    have short : n - before.length < 1 := last
    have same : n = before.length := by omega
    rw [same, Nat.sub_self] at there
    cases there
    exact ⟨same, rfl⟩

namespace Tracked

theorem start (d : Disk) (p : Path) (time : String) :
    Tracked d p time [] { disk := d, path := p } where
  path := rfl
  idle _ := .refl p d
  held h := by cases h
  stored h := by simp at h
  read h := by simp at h

theorem call (h : Tracked d p time cs x) (queued : Queued cs x) (c : StoreCall) :
    Tracked d p time (cs ++ [c]) (x.apply (.call c)) := by
  refine ⟨h.path, h.idle, fun {k} holder => ?_, fun {n k s r} there phase => ?_,
    fun {k c' a} own reads phase => ?_⟩
  · obtain ⟨before, s, order, holding⟩ := h.held holder
    refine ⟨before, s, order, ?_⟩
    have old : k ≠ x.called := by
      rintro rfl
      rw [queued.ahead (Nat.le_refl _)] at holding
      cases holding
    change Holding p time _ s x.disk (put x.phases x.called _ k)
    rwa [put_other _ _ old]
  · rcases put_phase_eq_some.mp phase with ⟨-, same⟩ | ⟨-, phase⟩
    · cases same
    · exact h.stored there phase
  · rcases put_phase_eq_some.mp phase with ⟨-, same⟩ | ⟨other, phase⟩
    · cases same
    · refine h.read ?_ reads phase
      have short : k < (cs ++ [c]).length := (List.getElem?_eq_some_iff.mp own).1
      rw [List.length_append, List.length_singleton] at short
      rw [queued.called] at other
      have short : k < cs.length := Nat.lt_of_le_of_ne (Nat.le_of_lt_succ short) other
      rwa [List.getElem?_append_left short] at own

theorem locks (h : Tracked d p time cs x) (free : x.holder = none) :
    Tracked d p time cs
      ({ x with holder := some k, order := x.order ++ [(k, s)] }.setPhase k (.locked s)) := by
  refine ⟨h.path, (fun holder => by cases holder), fun {j} holder => ?_,
    fun {n j s' r} there phase => ?_, fun {j c a} own reads phase unfailing => ?_⟩
  · cases holder
    refine ⟨x.order, s, rfl, ?_⟩
    change Holding p time _ s x.disk (put x.phases k _ k)
    rw [put_same]
    exact .locked (h.idle free)
  · rcases put_phase_eq_some.mp phase with ⟨-, same⟩ | ⟨other, phase⟩
    · cases same
    · have there : (x.order ++ [(k, s)])[n]? = some (j, s') := there
      by_cases early : n < x.order.length
      · rw [List.getElem?_append_left early] at there
        change _ = (Store.upsert p time s' (serial p time d ((x.order ++ [(k, s)]).take n))).1.isOk
        rw [List.take_append_of_le_length (Nat.le_of_lt early)]
        exact h.stored there phase
      · rw [List.getElem?_append_right (Nat.not_lt.mp early)] at there
        have last := List.mem_of_getElem? there
        rw [List.mem_singleton] at last
        cases last
        exact absurd rfl other
  · rcases put_phase_eq_some.mp phase with ⟨-, same⟩ | ⟨other, phase⟩
    · cases same
    · exact (h.read own reads phase unfailing.before).grows (k, s)

/-- The holder of the lock goes on and keeps it. -/
theorem keeps (h : Tracked d p time cs x) (holder : x.holder = some k)
    (order : x.order = before ++ [(k, s)]) {ph : StorePhase} (busy : ∀ a, ph ≠ .done a)
    (holding : Holding p time (serial p time d before) s y (some ph)) :
    Tracked d p time cs ({ x with disk := y }.setPhase k ph) := by
  refine ⟨h.path, fun free => ?_, fun {j} held => ?_, fun {n j s' r} there phase => ?_,
    fun {j c a} own reads phase => ?_⟩
  · have free : x.holder = none := free
    rw [holder] at free
    cases free
  · have held : x.holder = some j := held
    rw [holder, Option.some.injEq] at held
    refine ⟨before, s, by rw [← held]; exact order, ?_⟩
    change Holding p time _ s y (put x.phases k _ j)
    rwa [← held, put_same]
  · rcases put_phase_eq_some.mp phase with ⟨-, same⟩ | ⟨-, phase⟩
    · exact absurd same (busy _)
    · exact h.stored there phase
  · rcases put_phase_eq_some.mp phase with ⟨-, same⟩ | ⟨-, phase⟩
    · exact absurd same (busy _)
    · exact h.read own reads phase

/-- The holder of the lock gives it back when what it stored, or failed to store, is as in turn. -/
theorem unlock (h : Tracked d p time cs x) (queued : Queued cs x)
    (order : x.order = before ++ [(k, s)]) {r : Except StorageError Unit}
    (disk : Alike p y (Store.upsert p time s (serial p time d before)).2)
    (result : r.isOk = (Store.upsert p time s (serial p time d before)).1.isOk) :
    Tracked d p time cs ({ x with disk := y }.unlock k r) := by
  refine ⟨h.path, fun _ => ?_, (fun {j} held => by cases held), fun {n j s' r'} there phase => ?_,
    fun {j c a} own reads phase => ?_⟩
  · change Alike p y (serial p time d x.order)
    rw [order, serial_concat]
    exact disk
  · rcases put_phase_eq_some.mp phase with ⟨rfl, same⟩ | ⟨-, phase⟩
    · cases same
      have there : x.order[n]? = some (j, s') := there
      have distinct := queued.distinct
      change _ = (Store.upsert p time s' (serial p time d (x.order.take n))).1.isOk
      rw [order] at there distinct ⊢
      obtain ⟨rfl, rfl⟩ := unique_last distinct there
      rwa [List.take_left' rfl]
    · exact h.stored there phase
  · rcases put_phase_eq_some.mp phase with ⟨rfl, -⟩ | ⟨-, phase⟩
    · have noted : (j, s) ∈ x.order := by
        rw [order]
        simp
      rw [(queued.entered.mp noted).1] at own
      cases own
      cases reads
    · exact h.read own reads phase

theorem reads (h : Tracked d p time cs x) {c : StoreCall} (own : cs[k]? = some c)
    (waits : x.phases k = some (.called c)) (reads : c.reads = true) (time' : String) :
    Tracked d p time cs
      ({ x with disk := (Disk.load Book.ofJson? x.path time' x.disk).2 }.setPhase k
        (.done (c.alone x.path time' x.disk).1)) := by
  have same : Alike p (Disk.load Book.ofJson? x.path time' x.disk).2 x.disk := by
    rw [h.path]
    exact (Disk.alike_load Book.ofJson? p time' x.disk).symm
  refine ⟨h.path, fun free => same.trans (h.idle free), fun {j} held => ?_,
    fun {n j s r} there phase => ?_, fun {j c' a} own' reads' phase unfailing => ?_⟩
  · obtain ⟨before, s, order, holding⟩ := h.held held
    refine ⟨before, s, order, ?_⟩
    have other : j ≠ k := by
      rintro rfl
      rw [waits] at holding
      cases holding
    change Holding p time _ s _ (put x.phases k _ j)
    rw [put_other _ _ other]
    exact holding.alike same
  · rcases put_phase_eq_some.mp phase with ⟨rfl, same⟩ | ⟨-, phase⟩
    · cases c with
      | upsert s => cases reads
      | hosts only => cases same
      | rules nickname => cases same
    · exact h.stored there phase
  · rcases put_phase_eq_some.mp phase with ⟨rfl, same⟩ | ⟨-, phase⟩
    · cases same
      rw [own] at own'
      cases own'
      rw [h.path]
      change Sees d p time x.order c _
      cases holder : x.holder with
      | none =>
        refine ⟨x.order.length, ?_⟩
        rw [List.take_length]
        exact c.alone_eq_of_readText reads (h.idle holder).readText _ _
      | some i =>
        obtain ⟨before, s, order, holding⟩ := h.held holder
        have unfailing : Unfailing d p time x.order := unfailing
        rw [order] at unfailing ⊢
        exact holding.sees unfailing reads time'
    · exact h.read own' reads' phase unfailing

theorem turn {x' : Sharing} (h : Tracked d p time cs x) (queued : Queued cs x)
    (turn : Turn x k x') : Tracked d p time cs x' := by
  obtain rfl := h.path
  cases turn with
  | rests => exact h
  | locks phase free => exact h.locks free
  | reads time' phase reads => exact h.reads (queued.waits phase) phase reads time'
  | loads time' phase read =>
    have holder := queued.holds phase rfl
    obtain ⟨before, s, order, holding⟩ := h.held holder
    rw [phase] at holding
    cases holding with
    | locked alike =>
      rw [Store.load_fst_eq alike] at read
      have backed := (Disk.alike_load Book.ofJson? x.path time' x.disk).symm
      have loaded := backed.trans (alike.trans (Store.alike_load x.path time _))
      exact h.keeps holder order (by simp) (.saving read (List.nil_append _) rfl loaded)
  | @refused s e time' phase read =>
    obtain ⟨before, _, order, holding⟩ := h.held (queued.holds phase rfl)
    rw [phase] at holding
    cases holding with
    | locked alike =>
      rw [Store.load_fst_eq alike] at read
      have backed := (Disk.alike_load Book.ofJson? x.path time' x.disk).symm
      have loaded := backed.trans (alike.trans (Store.alike_load x.path time _))
      have failed := Store.upsert_of_load_error read s
      refine h.unlock queued order ?_ ?_
      · rw [failed]
        exact loaded
      · rw [failed]
  | goes phase applied =>
    have holder := queued.holds phase rfl
    obtain ⟨before, s, order, holding⟩ := h.held holder
    rw [phase] at holding
    exact h.keeps holder order (by simp) (holding.step.1 _ applied)
  | fails phase applied =>
    obtain ⟨before, s, order, holding⟩ := h.held (queued.holds phase rfl)
    rw [phase] at holding
    have ⟨alike, failed⟩ := holding.step.2 _ _ applied
    exact h.unlock queued order alike failed.symm
  | ends phase =>
    obtain ⟨before, s, order, holding⟩ := h.held (queued.holds phase rfl)
    rw [phase] at holding
    cases holding with
    | saving read split took alike =>
      have stored := upsert_of_taken read split took
      refine h.unlock queued order ?_ ?_
      · rw [stored]
        exact alike
      · rw [stored]
        rfl

end Tracked

end BridgeKeeper.Host.Sharing
