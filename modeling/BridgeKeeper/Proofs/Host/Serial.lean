import BridgeKeeper.Proofs.Disk.Midway
import BridgeKeeper.Proofs.Host.Queue

/-!
# Callers at once as callers in turn

However the steps of many callers fall between one another, the file of the hosts comes out as if
those who store had come one after another, in the order in which they took the lock, and whoever
reads finds the file as it is after some of them. While a call holds the lock, the disk is the one on
which its steps were taken alone, apart from files that neither reading nor storing looks at.
-/
namespace BridgeKeeper.Host

open Disk

variable {d w y y' : Disk} {p : Path} {time : String} {s : Stored} {k : CallId}
  {order : List (CallId × Stored)} {c : StoreCall} {a : StoreAnswer}

def serial (p : Path) (time : String) (d : Disk) (order : List (CallId × Stored)) : Disk :=
  order.foldl (fun d e => (Store.upsert p time e.2 d).2) d

theorem serial_concat (p : Path) (time : String) (d : Disk) (order : List (CallId × Stored))
    (e : CallId × Stored) :
    serial p time d (order ++ [e]) = (Store.upsert p time e.2 (serial p time d order)).2 := by
  rw [serial, List.foldl_append]
  rfl

/-- Nothing fails while the hosts are stored one after another. Storing each comes out well, and reading
finds the file if there is one; it could fail to where the path goes through a directory that is still
to be made, and up again. -/
structure Unfailing (d : Disk) (p : Path) (time : String) (order : List (CallId × Stored)) : Prop where
  stores {n : Nat} {k : CallId} {s : Stored} : order[n]? = some (k, s) →
    (Store.upsert p time s (serial p time d (order.take n))).1 = .ok ()
  finds : ¬ Hidden p d

/-- An answer that is read after some of the hosts were stored. -/
def Sees (d : Disk) (p : Path) (time : String) (order : List (CallId × Stored)) (c : StoreCall)
    (a : StoreAnswer) : Prop :=
  ∃ n, a = (c.alone p time (serial p time d (order.take n))).1

theorem Unfailing.before {before after : List (CallId × Stored)}
    (h : Unfailing d p time (before ++ after)) : Unfailing d p time before := by
  refine ⟨fun {n k s} there => ?_, h.finds⟩
  have short : n < before.length := (List.getElem?_eq_some_iff.mp there).1
  have stored := h.stores ((List.getElem?_append_left short).trans there)
  rwa [List.take_append_of_le_length (Nat.le_of_lt short)] at stored

theorem Unfailing.last {before : List (CallId × Stored)}
    (h : Unfailing d p time (before ++ [(k, s)])) :
    (Store.upsert p time s (serial p time d before)).1 = .ok () := by
  have stored := h.stores (n := before.length) List.getElem?_concat_length
  rwa [List.take_left' rfl] at stored

theorem Sees.grows (h : Sees d p time order c a) (e : CallId × Stored) :
    Sees d p time (order ++ [e]) c a := by
  obtain ⟨n, rfl⟩ := h
  refine ⟨min n order.length, ?_⟩
  rw [List.take_append_of_le_length (Nat.min_le_right _ _), ← List.take_eq_take_min]

/-- After a host is stored the path leads to a place. -/
theorem place?_serial (unfailing : Unfailing d p time order) (some_ : order ≠ []) :
    (serial p time d order).place? p ≠ none := by
  rcases order.eq_nil_or_concat with rfl | ⟨before, ⟨k, s⟩, rfl⟩
  · exact absurd rfl some_
  · rw [List.concat_eq_append] at unfailing ⊢
    rw [serial_concat]
    have settled := (Store.upserts_upsert p time s (serial p time d before)).shelved
    rw [unfailing.last] at settled
    obtain ⟨b, -, replaced⟩ := settled
    obtain ⟨q, place, -⟩ := read_eq_ok_iff.mp replaced.read
    simp [place]

/-- The file is never hidden, because storing a host makes the path lead somewhere. -/
theorem Unfailing.found (unfailing : Unfailing d p time order) : ¬ Hidden p (serial p time d order) := by
  by_cases start : order = []
  · rw [start]
    exact unfailing.finds
  · exact fun hidden => place?_serial unfailing start hidden.place?

theorem Store.alike_load (p : Path) (time : String) (d : Disk) :
    Alike p d (Store.load p time d).2 := by
  rw [Store.load_eq]
  exact Disk.alike_load Book.ofJson? p time d

theorem Store.load_fst_eq (same : Alike p y w) (time' : String) :
    (Store.load p time' y).1 = (Store.load p time w).1 := by
  rw [Store.load_eq, Store.load_eq]
  simp only [load_fst, same.readText]

theorem Store.missing_of_load {b : Book} (read : (Store.load p time w).1 = .ok b)
    (nowhere : w.place? p = none) : w.readText p = .error .notFound := by
  rw [Store.load_eq, load_fst] at read
  cases found : w.readText p with
  | ok text =>
    obtain ⟨content, there, -⟩ := readText_eq_ok_iff.mp found
    obtain ⟨q, place, -⟩ := read_eq_ok_iff.mp there
    rw [nowhere] at place
    cases place
  | error e =>
    rw [found] at read
    cases e <;> first | rfl | cases read

namespace Sharing

/-- How the call that holds the lock stands to the disk on which it took it: the file is unread, or
was read, and some of the steps are taken. Other callers may have made backups since. -/
inductive Holding (p : Path) (time : String) (w : Disk) (s : Stored) (y : Disk) :
    Option StorePhase → Prop
  | locked : Alike p y w → Holding p time w s y (some (.locked s))
  | saving {b : Book} {taken rest : List SaveStep} {z : Disk} :
    (Store.load p time w).1 = .ok b →
    taken ++ rest = saveSteps p (saveBytes (b.upsert s).toJson) →
    (Store.load p time w).2.runSteps taken = (.ok (), z) → Alike p y z →
    Holding p time w s y (some (.saving rest))

theorem Holding.alike {ph : Option StorePhase} (h : Holding p time w s y ph) (same : Alike p y' y) :
    Holding p time w s y' ph := by
  cases h with
  | locked alike => exact .locked (same.trans alike)
  | saving read split took alike => exact .saving read split took (same.trans alike)

/-- The steps of storing a host in turn, as far as they are taken and from there on. -/
theorem upsert_of_taken {b : Book} {taken rest : List SaveStep} {z : Disk}
    (read : (Store.load p time w).1 = .ok b)
    (split : taken ++ rest = saveSteps p (saveBytes (b.upsert s).toJson))
    (took : (Store.load p time w).2.runSteps taken = (.ok (), z)) :
    Store.upsert p time s w = ((z.runSteps rest).1.mapError .io, (z.runSteps rest).2) := by
  rw [Store.upsert_of_load read, save_eq, ← split, runSteps_append, took]

/-- Both disks take a step alike: the call goes on, or storing the host fails in turn as well. -/
theorem Holding.step {t : SaveStep} {rest : List SaveStep}
    (h : Holding p time w s y (some (.saving (t :: rest)))) :
    (∀ y', t.apply y = (.ok (), y') → Holding p time w s y' (some (.saving rest))) ∧
    ∀ e y', t.apply y = (.error e, y') → Alike p y' (Store.upsert p time s w).2 ∧
      (Store.upsert p time s w).1.isOk = false := by
  cases h with
  | @saving b taken _ z read split took alike =>
    have mem : t ∈ saveSteps p (saveBytes (b.upsert s).toJson) := by
      rw [← split]
      simp
    have ⟨same, both⟩ := alike.apply mem
    constructor
    · intro y' applied
      rw [applied] at same both
      have applied' : t.apply z = (.ok (), (t.apply z).2) :=
        Prod.ext (isOk_iff.mp (same.symm.trans rfl)) rfl
      have took' : (Store.load p time w).2.runSteps (taken ++ [t]) = (.ok (), (t.apply z).2) := by
        rw [runSteps_append, took]
        exact runSteps_cons_eq_ok_iff.mpr ⟨_, applied', rfl⟩
      have split' : taken ++ [t] ++ rest = saveSteps p (saveBytes (b.upsert s).toJson) := by
        rw [← split, List.append_assoc]
        rfl
      exact .saving read split' took' both
    · intro e y' applied
      rw [applied] at same both
      rw [upsert_of_taken read split took, runSteps]
      rcases failed : t.apply z with ⟨e' | _, z'⟩
      · rw [failed] at both
        exact ⟨both, rfl⟩
      · rw [failed] at same
        cases same

/-- Until its last step a call that will store its host leaves the file to be read as it found it, if
that was not hidden. -/
theorem readText_of_taken {b : Book} {taken rest : List SaveStep} {z : Disk}
    (read : (Store.load p time w).1 = .ok b)
    (split : taken ++ rest = saveSteps p (saveBytes (b.upsert s).toJson)) (left : rest ≠ [])
    (took : (Store.load p time w).2.runSteps taken = (.ok (), z))
    (stored : (Store.upsert p time s w).1 = .ok ()) (found : ¬ Hidden p w) :
    z.readText p = w.readText p := by
  have saved : Disk.save (b.upsert s).toJson p (Store.load p time w).2 =
      (.ok (), (Store.upsert p time s w).2) := by
    rw [← Store.upsert_of_load read s]
    exact Prod.ext stored rfl
  -- Reading changes the disk only where the path leads to a file already, which is not hidden.
  have unread : (Store.load p time w).2.place? p = none → (Store.load p time w).2 = w := by
    intro nowhere
    rcases Store.alike_load p time w with same | both
    · exact same.symm
    · obtain ⟨q, place⟩ := both.symm.leads
      rw [nowhere] at place
      cases place
  have missing : (Store.load p time w).2.place? p = none →
      (Store.load p time w).2.readText p = .error .notFound := by
    intro nowhere
    have same := unread nowhere
    rw [same] at nowhere ⊢
    exact Store.missing_of_load read nowhere
  have found' : ¬ Hidden p (Store.load p time w).2 := by
    intro hidden
    rw [unread hidden.place?] at hidden
    exact found hidden
  have as_before := readText_midway split left took ⟨_, save_eq_ok_iff.mp saved⟩ missing found'
  exact as_before.trans (Store.alike_load p time w).readText.symm

/-- What is read while a call holds the lock. -/
theorem Holding.sees {before : List (CallId × Stored)} {ph : Option StorePhase}
    (h : Holding p time (serial p time d before) s y ph)
    (unfailing : Unfailing d p time (before ++ [(k, s)])) (reads : c.reads = true) (time' : String) :
    Sees d p time (before ++ [(k, s)]) c (c.alone p time' y).1 := by
  have first : (before ++ [(k, s)]).take before.length = before := List.take_left' rfl
  cases h with
  | locked alike =>
    refine ⟨before.length, ?_⟩
    rw [first]
    exact c.alone_eq_of_readText reads alike.readText _ _
  | @saving b taken rest z read split took alike =>
    by_cases over_ : rest = []
    · -- The file is replaced, though the call has not returned.
      rw [over_, List.append_nil] at split
      have saved := Store.upsert_of_load read s
      rw [save_eq, ← split, took] at saved
      refine ⟨(before ++ [(k, s)]).length, ?_⟩
      rw [List.take_length, serial_concat, saved]
      exact c.alone_eq_of_readText reads alike.readText _ _
    · have same := readText_of_taken read split over_ took unfailing.last unfailing.before.found
      refine ⟨before.length, ?_⟩
      rw [first]
      exact c.alone_eq_of_readText reads (alike.readText.trans same) _ _

end Sharing
end BridgeKeeper.Host
