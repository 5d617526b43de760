
/-!
# Looking up by key

A list of pairs is looked up by key. What stands under other keys does not matter for it.
-/
namespace BridgeKeeper

variable {α β : Type} [BEq α] [LawfulBEq α] {a x : α}

theorem lookup_tail (h : x ≠ a) (b : β) (l : List (α × β)) :
    ((a, b) :: l).lookup x = l.lookup x := by
  rw [List.lookup_cons, beq_eq_false_iff_ne.mpr h]

theorem lookup_filter_ne {l : List (α × β)} (h : x ≠ a) :
    (l.filter (·.1 != a)).lookup x = l.lookup x := by
  induction l with
  | nil => rfl
  | cons n l ih =>
    by_cases hn : n.1 = a
    · rw [List.filter_cons_of_neg (by simp [hn]), List.lookup_cons, ih]
      have : (x == n.1) = false := by simpa [hn] using h
      rw [this]
    · rw [List.filter_cons_of_pos (by simp [hn]), List.lookup_cons, List.lookup_cons, ih]

theorem lookup_filter_same (l : List (α × β)) : (l.filter (·.1 != a)).lookup a = none := by
  rw [List.lookup_eq_none_iff]
  intro n h
  have other : n.1 ≠ a := by simpa using (List.mem_filter.mp h).2
  simpa using Ne.symm other

theorem lookup_map_pair (b : β) (l : List α) :
    (l.map fun a => (a, b)).lookup x = if l.contains x then some b else none := by
  induction l with
  | nil => rfl
  | cons a l ih =>
    rw [List.map_cons, List.contains_cons]
    by_cases same : x = a
    · simp [same]
    · rw [lookup_tail same, ih, beq_eq_false_iff_ne.mpr same, Bool.false_or]

end BridgeKeeper
