import BridgeKeeper.Host.Store

/-!
# The default host of a file

The default host is the head of the list that a store gives, and its rules are looked up by its
nickname. Several hosts of a file may have one nickname. The list is sorted in a way that keeps the
file's order, and the search takes the first match, so both meet at the same host of the file.
-/
namespace BridgeKeeper.Host

/-- Sorting puts the first of the least elements in front. -/
theorem head?_mergeSort {α : Type} {le : α → α → Bool} (trans : ∀ a b c, le a b → le b c → le a c)
    (total : ∀ a b, le a b || le b a) {before after : List α} {a : α}
    (less : ∀ b ∈ before, le b a = false) (least : ∀ b ∈ after, le a b) :
    ((before ++ a :: after).mergeSort le).head? = some a := by
  induction before with
  | nil =>
    obtain ⟨front, back, sorted, others, passed⟩ := List.mergeSort_cons trans total a after
    have bare : front = [] := by
      refine List.eq_nil_iff_forall_not_mem.mpr fun b there => ?_
      have sortedMember : b ∈ after.mergeSort le := by
        rw [others]
        exact List.mem_append_left _ there
      have member : b ∈ after := List.mem_mergeSort.mp sortedMember
      simpa [least b member] using passed b there
    rw [List.nil_append, sorted, bare]
    rfl
  | cons x before ih =>
    obtain ⟨front, back, sorted, others, -⟩ := List.mergeSort_cons trans total x (before ++ a :: after)
    have first := ih fun b there => less b (List.mem_cons_of_mem x there)
    rw [others] at first
    rw [List.cons_append, sorted]
    cases front with
    | nil =>
      -- The new element would be the head, and is not among the least.
      have ordered := List.pairwise_mergeSort trans total (x :: (before ++ a :: after))
      rw [sorted] at ordered
      have behind : le x a := (List.pairwise_cons.mp ordered).1 a (List.mem_of_head? first)
      rw [less x List.mem_cons_self] at behind
      cases behind
    | cons y front => exact first

/-- A host is the first in a file among those with the smallest nickname. -/
def Stored.Leads (h : Stored) (hosts : List Stored) : Prop :=
  ∃ before after, hosts = before ++ h :: after ∧
    (∀ x ∈ before, h.record.nickname < x.record.nickname) ∧
    ∀ x ∈ after, h.record.nickname ≤ x.record.nickname

variable {h x : Stored} {hosts : List Stored} {b : Book}

theorem Stored.Leads.le (leads : h.Leads hosts) (there : x ∈ hosts) :
    h.record.nickname ≤ x.record.nickname := by
  obtain ⟨before, after, rfl, less, least⟩ := leads
  rcases List.mem_append.mp there with there | there
  · exact String.not_lt.mp (String.lt_asymm (less x there))
  · rcases List.mem_cons.mp there with rfl | there
    · exact String.le_refl _
    · exact least x there

/-- There is one, unless there are no hosts. -/
theorem exists_leads (some_ : hosts ≠ []) : ∃ h : Stored, h.Leads hosts := by
  induction hosts with
  | nil => exact absurd rfl some_
  | cons x rest ih =>
    by_cases alone : rest = []
    · exact ⟨x, [], rest, rfl, by simp, by simp [alone]⟩
    · obtain ⟨h, leads⟩ := ih alone
      by_cases first : x.record.nickname ≤ h.record.nickname
      · exact ⟨x, [], rest, rfl, by simp, fun y there => String.le_trans first (leads.le there)⟩
      · obtain ⟨before, after, rfl, less, least⟩ := leads
        have behind : h.record.nickname < x.record.nickname := String.not_le.mp first
        exact ⟨h, x :: before, after, rfl, List.forall_mem_cons.mpr ⟨behind, less⟩, least⟩

/-- The list of the hosts starts with it. -/
theorem Stored.Leads.head?_records (leads : h.Leads b.hosts) :
    (b.records false).head? = some h.record := by
  obtain ⟨before, after, hosts, less, least⟩ := leads
  have all : (b.hosts.map Stored.record).filter (fun r => !false || r.hasConnected) =
      b.hosts.map Stored.record := List.filter_eq_self.mpr (by simp)
  rw [Book.records, all, hosts, List.map_append, List.map_cons]
  apply head?_mergeSort
  · intro x y z
    simpa using String.le_trans
  · intro x y
    simpa using String.le_total x.nickname y.nickname
  · intro r there
    obtain ⟨x, member, rfl⟩ := List.mem_map.mp there
    simpa using less x member
  · intro r there
    obtain ⟨x, member, rfl⟩ := List.mem_map.mp there
    simpa using least x member

/-- The search for the rules of its nickname finds it. -/
theorem Stored.Leads.rulesOf (leads : h.Leads b.hosts) : b.rulesOf h.record.nickname = h.rules := by
  obtain ⟨before, after, hosts, less, -⟩ := leads
  have others : before.find? (fun x => x.record.nickname = h.record.nickname) = none := by
    refine List.find?_eq_none.mpr fun x there same => ?_
    have behind := less x there
    rw [of_decide_eq_true same] at behind
    exact String.lt_irrefl _ behind
  rw [Book.rulesOf, hosts, List.find?_append, others]
  simp

/-- There is only one. -/
theorem Stored.Leads.eq (leads : h.Leads b.hosts) (leads' : x.Leads b.hosts) : h = x := by
  have record : h.record = x.record :=
    Option.some.inj (leads.head?_records.symm.trans leads'.head?_records)
  have rules : h.rules = x.rules := by
    rw [← leads.rulesOf, ← leads'.rulesOf, record]
  cases h
  cases x
  cases record
  cases rules
  rfl

end BridgeKeeper.Host
