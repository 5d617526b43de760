import BridgeKeeper.Host.Store
import BridgeKeeper.Table

/-!
# A book as a map

A book in which no two hosts have one nickname is a map from nicknames to hosts: storing a host
changes the map at its nickname, and the list of the records is the map in the order of nicknames.
-/
namespace BridgeKeeper.Host

/-- The host under each nickname. -/
abbrev Shelf := String → Option Stored

namespace Book

variable {b : Book} {s : Stored}

def shelf (b : Book) : Shelf := fun n => b.hosts.find? fun s => s.record.nickname = n

theorem find?_upsertIn (s : Stored) (l : List Stored) (n : String) :
    (upsertIn s l).find? (fun h => h.record.nickname = n) =
      if n = s.record.nickname then some s else l.find? fun h => h.record.nickname = n := by
  induction l with
  | nil => by_cases own : n = s.record.nickname <;> simp [upsertIn, own, eq_comm]
  | cons x l ih =>
    by_cases same : x.record.nickname = s.record.nickname
    · rw [upsertIn, if_pos same]
      by_cases own : n = s.record.nickname
      · simp [own]
      · simp [own, same, Ne.symm own]
    · rw [upsertIn, if_neg same, List.find?_cons, List.find?_cons, ih]
      by_cases own : n = s.record.nickname
      · simp [own, same]
      · simp [own]

theorem nicknames_upsertIn (s : Stored) (l : List Stored) :
    (upsertIn s l).map (·.record.nickname) =
      if s.record.nickname ∈ l.map (·.record.nickname) then l.map (·.record.nickname)
      else l.map (·.record.nickname) ++ [s.record.nickname] := by
  induction l with
  | nil => rfl
  | cons x l ih =>
    by_cases same : x.record.nickname = s.record.nickname
    · simp [upsertIn, same]
    · rw [upsertIn, if_neg same, List.map_cons, ih]
      by_cases there : s.record.nickname ∈ l.map (·.record.nickname)
      · simp only [there, if_true, List.map_cons, List.mem_cons, or_true]
      · simp only [there, if_false, List.map_cons, List.mem_cons, or_false, Ne.symm same,
          List.cons_append]

/-- The version is understood, and no two hosts have one nickname. -/
structure Tidy (b : Book) : Prop where
  version : b.version ≤ Settings.supportedVersion
  distinct : (b.hosts.map (·.record.nickname)).Nodup

theorem tidy_empty : Book.empty.Tidy := ⟨by decide, List.nodup_nil⟩

theorem Tidy.upsert (h : b.Tidy) (s : Stored) : (b.upsert s).Tidy := by
  refine ⟨h.version, ?_⟩
  rw [Book.upsert, nicknames_upsertIn]
  split
  · exact h.distinct
  · next new =>
    refine List.nodup_append.mpr ⟨h.distinct, List.pairwise_singleton _ _, ?_⟩
    rintro n there m last rfl
    rw [List.mem_singleton.mp last] at there
    exact new there

/-- Storing a host changes what is found under its nickname, and nothing else. -/
theorem shelf_upsert (b : Book) (s : Stored) :
    (b.upsert s).shelf = put b.shelf s.record.nickname (some s) := by
  funext n
  exact find?_upsertIn s b.hosts n

theorem find?_eq_some_of_mem {l : List Stored} (distinct : (l.map (·.record.nickname)).Nodup)
    (h : s ∈ l) : l.find? (fun x => x.record.nickname = s.record.nickname) = some s := by
  induction l with
  | nil => cases h
  | cons x l ih =>
    rw [List.map_cons, List.nodup_cons] at distinct
    rcases List.mem_cons.mp h with rfl | h
    · simp
    · have other : x.record.nickname ≠ s.record.nickname := by
        intro same
        exact distinct.1 (List.mem_map.mpr ⟨s, h, same.symm⟩)
      rw [List.find?_cons_of_neg (by simpa using other)]
      exact ih distinct.2 h

theorem Tidy.mem_hosts_iff (h : b.Tidy) : s ∈ b.hosts ↔ b.shelf s.record.nickname = some s :=
  ⟨find?_eq_some_of_mem h.distinct, List.mem_of_find?_eq_some⟩

/-! ## The list of the records -/

theorem mem_records {only : Bool} {r : Record} : r ∈ b.records only ↔
    (∃ s ∈ b.hosts, s.record = r) ∧ (only = true → r.hasConnected = true) := by
  rw [records, (List.mergeSort_perm _ _).mem_iff, List.mem_filter, List.mem_map]
  cases only <;> simp

theorem Tidy.pairwise_records (h : b.Tidy) (only : Bool) :
    (b.records only).Pairwise fun x y => x.nickname < y.nickname := by
  have sorted : (b.records only).Pairwise fun x y => x.nickname ≤ y.nickname := by
    have := @List.pairwise_mergeSort Record (fun x y => decide (x.nickname ≤ y.nickname))
      (fun x y z hxy hyz => by simpa using String.le_trans (by simpa using hxy) (by simpa using hyz))
      (fun x y => by simpa using String.le_total x.nickname y.nickname)
      ((b.hosts.map Stored.record).filter fun r => !only || r.hasConnected)
    simpa [records] using this
  have distinct : (b.records only).Pairwise fun x y => x.nickname ≠ y.nickname := by
    have all : (b.hosts.map Stored.record).Pairwise fun x y => x.nickname ≠ y.nickname := by
      have := h.distinct
      rw [List.Nodup, List.pairwise_map] at this
      rwa [List.pairwise_map]
    have kept := all.filter fun r => !only || r.hasConnected
    exact kept.perm (List.mergeSort_perm _ _).symm fun h => h.symm
  refine (sorted.and distinct).imp fun {x y} h => ?_
  rw [← String.not_le]
  exact fun back => h.2 (String.le_antisymm h.1 back)

/-- The connected records are the others left out of the list of all, in the same order. -/
theorem Tidy.records_true (h : b.Tidy) :
    b.records true = (b.records false).filter Record.hasConnected := by
  have perm : (b.records true).Perm ((b.records false).filter Record.hasConnected) := by
    refine (List.mergeSort_perm _ _).trans ?_
    refine List.Perm.trans ?_ ((List.mergeSort_perm _ _).symm.filter _)
    simp
  refine perm.eq_of_pairwise ?_ (h.pairwise_records true) ((h.pairwise_records false).filter _)
  intro x y _ _ hxy hyx
  exact absurd (String.lt_trans hxy hyx) (String.lt_irrefl _)

end Book
end BridgeKeeper.Host
