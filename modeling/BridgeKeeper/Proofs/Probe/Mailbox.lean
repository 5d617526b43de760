import BridgeKeeper.Probe.Prober

/-!
# What the observer of a prober gets

Results reach the observer through a slot for the newest of them, in which a result may be replaced
before it is taken. Each delivery is told apart by which of the published results it takes, so that
equal codes are not mistaken for each other: the numbers of the results that are taken increase, and
once both tasks are over the last one that was published has been taken.
-/
namespace BridgeKeeper.Probe.Prober

variable {p : Prober} {ns : List Nat}

/-- The number of the result that an event delivers, if it delivers one: the newest that was published
by then, counted from zero. -/
def takes (p : Prober) (x : Event) : List Nat :=
  if x = .deliver ∧ p.delivery = .woken then [p.published.length - 1] else []

def taken (p : Prober) : List Event → List Nat
  | [] => []
  | x :: xs => p.takes x ++ (p.apply x).taken xs

/-- How a prober stands that has delivered the results of these numbers. -/
structure Delivers (p : Prober) (ns : List Nat) : Prop where
  slot : p.slot = p.published.getLast?
  values : p.delivered.map some = ns.map fun n => p.published[n]?
  ordered : ns.Pairwise (· < ·)
  part : p.delivered.Sublist (if p.fresh then p.published.dropLast else p.published)
  /-- A result that was not taken yet is the newest, and newer than all that were taken. -/
  fresh : p.fresh = true → p.published ≠ [] ∧ ∀ n ∈ ns, n + 1 < p.published.length
  /-- Else the newest result was taken last. -/
  stale : p.fresh = false → ∀ n, ns.getLast? = some n ↔ n + 1 = p.published.length
  woken : p.delivery = .woken → p.fresh = true
  ended : p.delivery = .ended → p.scheduler = .ended ∧ p.fresh = false

theorem delivers_start : ({} : Prober).Delivers [] where
  slot := rfl
  values := rfl
  ordered := .nil
  part := .slnil
  fresh := nofun
  stale _ n := by simp
  woken := nofun
  ended := nofun

/-- All that was taken was published before. -/
theorem Delivers.lt_published (h : p.Delivers ns) {n : Nat} (there : n ∈ ns) :
    n < p.published.length := by
  cases waiting : p.fresh with
  | true =>
    have newer := (h.fresh waiting).2 n there
    omega
  | false =>
    have ends := List.getLast?_eq_some_getLast (List.ne_nil_of_mem there)
    have newest := (h.stale waiting _).mp ends
    obtain ⟨before, split⟩ := List.getLast?_eq_some_iff.mp ends
    have ordered := h.ordered
    rw [split, List.pairwise_append] at ordered
    rw [split, List.mem_append, List.mem_singleton] at there
    rcases there with earlier | same
    · have below := ordered.2.2 n earlier _ List.mem_cons_self
      omega
    · omega

theorem Delivers.sublist (h : p.Delivers ns) : p.delivered.Sublist p.published := by
  refine h.part.trans ?_
  split
  · exact List.dropLast_sublist _
  · exact List.Sublist.refl _

/-- Where no result waits to be taken, the last one that was published was taken last. -/
theorem Delivers.last (h : p.Delivers ns) (stale : p.fresh = false) (ever : p.published ≠ []) :
    ns.getLast? = some (p.published.length - 1) ∧ p.delivered.getLast? = p.published.getLast? := by
  have longer := List.length_pos_iff.mpr ever
  have last := (h.stale stale (p.published.length - 1)).mpr (by omega)
  have values := congrArg List.getLast? h.values
  rw [List.getLast?_map, List.getLast?_map, last, Option.map_some, ← List.getLast?_eq_getElem?,
    List.getLast?_eq_some_getLast ever] at values
  refine ⟨last, ?_⟩
  rw [List.getLast?_eq_some_getLast ever]
  simpa using values

theorem Delivers.tick (h : p.Delivers ns) : p.tick.Delivers ns := by
  rw [Prober.tick]
  split
  · next waiting =>
    have running : p.delivery ≠ .ended := fun past => by
      cases waiting.symm.trans (h.ended past).1
    split
    · exact { h with ended := fun past => absurd past running }
    · exact { h with ended := fun past => absurd past running }
  · exact h

/-- A new result takes the place of the one in the slot. -/
theorem Delivers.reply (h : p.Delivers ns) (c : Code) : (p.reply c).Delivers ns := by
  rw [Prober.reply]
  split
  · next probing =>
    have longer : (p.published ++ [c]).length = p.published.length + 1 := List.length_append
    refine
      { slot := List.getLast?_concat.symm, values := ?_, ordered := h.ordered, part := ?_
        fresh := fun _ => ⟨by simp, fun n there => ?_⟩, stale := nofun
        woken := fun _ => rfl, ended := fun past => ?_ }
    · refine h.values.trans (List.map_congr_left fun n there => ?_)
      exact (List.getElem?_append_left (h.lt_published there)).symm
    · simpa using h.sublist
    · have earlier := h.lt_published there
      dsimp only
      omega
    · cases probing.symm.trans (h.ended past).1
  · exact h

theorem Delivers.wake (h : p.Delivers ns) : p.wake.Delivers ns := by
  rw [Prober.wake]
  split
  · split
    · next waits =>
      exact { h with woken := fun _ => waits, ended := nofun }
    · next taken =>
      split
      · next past =>
        exact { h with
          woken := nofun
          ended := fun _ => ⟨past, eq_false_of_ne_true taken⟩ }
      · exact h
  · exact h

/-- The newest result is taken, and none is left. -/
theorem Delivers.deliver (h : p.Delivers ns) : p.deliver.Delivers (ns ++ p.takes .deliver) := by
  rw [Prober.deliver, takes]
  split
  · next woken =>
    have waits := h.woken woken
    obtain ⟨ever, newer⟩ := h.fresh waits
    obtain ⟨before, c, newest⟩ : ∃ before c, p.published = before ++ [c] :=
      ⟨_, _, (List.dropLast_concat_getLast ever).symm⟩
    have slot : p.slot = some c := by rw [h.slot, newest, List.getLast?_concat]
    have last : p.published.length - 1 = before.length := by simp [newest]
    rw [if_pos ⟨rfl, woken⟩, last, slot]
    refine
      { slot := slot.symm.trans h.slot, values := ?_, ordered := ?_, part := ?_
        fresh := nofun, stale := fun _ n => ?_
        woken := nofun, ended := nofun }
    · have read : p.published[before.length]? = some c := by simp [newest]
      simpa [read] using h.values
    · refine List.pairwise_append.mpr ⟨h.ordered, List.pairwise_singleton _ _, ?_⟩
      intro n there m same
      have earlier := newer n there
      rw [List.mem_singleton.mp same]
      omega
    · have part := h.part
      rw [if_pos waits, newest, List.dropLast_concat] at part
      simpa [newest] using part.append_right [c]
    · simp [newest, eq_comm]
  · next idle =>
    rw [if_neg fun told => idle told.2, List.append_nil]
    exact h

theorem Delivers.apply (h : p.Delivers ns) (x : Event) :
    (p.apply x).Delivers (ns ++ p.takes x) := by
  have silent (other : x ≠ .deliver) : ns ++ p.takes x = ns := by
    rw [takes, if_neg fun told => other told.1, List.append_nil]
  cases x with
  | stop =>
    rw [silent (by simp)]
    exact { h with }
  | tick =>
    rw [silent (by simp)]
    exact h.tick
  | reply c =>
    rw [silent (by simp)]
    exact h.reply c
  | wake =>
    rw [silent (by simp)]
    exact h.wake
  | deliver => exact h.deliver

theorem Delivers.run (h : p.Delivers ns) (xs : List Event) :
    (p.run xs).Delivers (ns ++ p.taken xs) := by
  induction xs generalizing p ns with
  | nil =>
    rw [taken, List.append_nil]
    exact h
  | cons x xs ih =>
    rw [taken, ← List.append_assoc]
    exact ih (h.apply x)

/-- Whatever is published, and however fast both tasks are and whenever the prober is stopped: the
observer gets results that were published, each of them once at most and in the order in which they
were published; and once both tasks are over, the last one that was published is the last one that it
got. -/
theorem observer_gets_last (xs : List Event) :
    (run {} xs).delivered.map some = (taken {} xs).map (fun n => (run {} xs).published[n]?) ∧
    (taken {} xs).Pairwise (· < ·) ∧
    (run {} xs).delivered.Sublist (run {} xs).published ∧
    ((run {} xs).isOver = true → (run {} xs).published ≠ [] →
      (taken {} xs).getLast? = some ((run {} xs).published.length - 1) ∧
      (run {} xs).delivered.getLast? = (run {} xs).published.getLast?) := by
  have delivers := delivers_start.run xs
  rw [List.nil_append] at delivers
  refine ⟨delivers.values, delivers.ordered, delivers.sublist, fun past ever => ?_⟩
  have ended : (run {} xs).delivery = .ended := by
    simp only [isOver, Bool.and_eq_true, decide_eq_true_eq] at past
    exact past.2
  exact delivers.last (delivers.ended ended).2 ever

/-- The prober is stopped while its second probe is under way, whose result replaces the first one in
the slot before that is taken. -/
def overtaken : List Event :=
  [.tick, .reply ⟨200⟩, .wake, .tick, .stop, .reply ⟨200⟩, .deliver, .tick, .wake]

/-- The observer gets the second of two equal results. -/
theorem observer_gets_last_overtaken :
    (run {} overtaken).isOver = true ∧ (run {} overtaken).published = [⟨200⟩, ⟨200⟩] ∧
      (taken {} overtaken).getLast? = some 1 ∧ (run {} overtaken).delivered.getLast? = some ⟨200⟩ := by
  have past : (run {} overtaken).isOver = true := by decide
  have published : (run {} overtaken).published = [⟨200⟩, ⟨200⟩] := by decide
  obtain ⟨-, -, -, last⟩ := observer_gets_last overtaken
  obtain ⟨newest, same⟩ := last past (by rw [published]; simp)
  rw [published] at newest same
  exact ⟨past, published, newest, same⟩

end BridgeKeeper.Probe.Prober
