import BridgeKeeper.Proofs.Bridge.Lifecycle

/-!
# Who hears of the end of a bridge

A bridge leaves the list once. Where it is ended, every listener hears of it then and never again;
where it is taken back, no listener ever does.
-/
namespace BridgeKeeper.Bridge

/-- The event is a step that ends the bridge, in one of the ways of `Ends`. -/
def Removes (w : World) (e : EntryId) (x : Event) : Prop :=
  ∃ t m p s q, x = .run t m ∧ w.tasks t = some p ∧ Ends w e p s q

/-- The event takes back a bridge that did not connect: its open failed or was cancelled. -/
inductive RollsBack (w : World) (e : EntryId) : Event → Prop
  | failed {t m c k f} : w.tasks t = some (.opening c e k) → w.answers k = some (.failure f) →
    RollsBack w e (.run t m)
  | cancelled {t c k} : w.tasks t = some (.opening c e k) → RollsBack w e (.abort t)

/-- Who opens a bridge does not end it. -/
theorem Removes.not_rollsBack {w : World} {e : EntryId} {x : Event} (h : Removes w e x) :
    ¬ RollsBack w e x := by
  obtain ⟨t, m, p, s, q, rfl, ht, ends⟩ := h
  rintro (⟨task, -⟩)
  exact ends.idle.1.ne _ _ _ (Option.some.inj (ht.symm.trans task))

namespace World

variable {w v : World} {e : EntryId}

def noticesOf (w : World) (e : EntryId) : List Notice := w.notices.filter fun n => n.entry = e

/-- One call of every listener about a bridge that is disconnected and off the list. -/
def fanOut (w : World) (e : EntryId) : List Notice :=
  (List.range w.listeners).map fun l => ⟨l, e, .disconnected, false⟩

theorem fanOut_filter (w : World) (a e : EntryId) :
    ((w.fanOut a).filter fun n => n.entry = e) = if a = e then w.fanOut e else [] := by
  have about {n : Notice} (h : n ∈ w.fanOut a) : n.entry = a := by
    obtain ⟨l, -, rfl⟩ := List.mem_map.mp h
    rfl
  by_cases h : a = e
  · rw [if_pos h, ← h, List.filter_eq_self]
    exact fun n hn => by simpa using about hn
  · rw [if_neg h, List.filter_eq_nil_iff]
    exact fun n hn => by simpa [about hn] using h

theorem noticesOf_retire (w : World) (a e : EntryId) :
    (w.retire a).noticesOf e =
      w.noticesOf e ++ if w.isListed a ∧ a = e then w.fanOut e else [] := by
  cases h : w.isListed a with
  | true =>
    rw [retire_of_listed h, noticesOf, List.filter_append]
    simp only [true_and]
    exact congrArg (w.noticesOf e ++ ·) (w.fanOut_filter a e)
  | false =>
    rw [retire_of_not_listed h]
    simp

end World

namespace Move

variable {w v : World} {x : Event} {e : EntryId}

/-- An event calls the listeners about a bridge only if it ends that bridge, which is listed, and
then it calls every one; otherwise the bridge stays or is taken back. -/
theorem noticesOf (h : Move w x v) (sound : w.Sound) (e : EntryId) :
    v.noticesOf e = w.noticesOf e ∧ (w.isListed e → v.isListed e ∨ RollsBack w e x) ∨
      Removes w e x ∧ w.isListed e ∧ v.isListed e = false ∧
        v.noticesOf e = w.noticesOf e ++ w.fanOut e := by
  have after := h.sound sound
  have stays (same : v.status e = w.status e) (here : w.isListed e) :
      v.isListed e ∨ RollsBack w e x := by
    rw [sound.tidy.isListed_iff] at here
    exact Or.inl ((after.tidy.isListed_iff e).mpr (same ▸ here))
  cases h with
  | rest | start | answer | listen | session | reply | abort | pass => exact Or.inl ⟨rfl, stays rfl⟩
  | @cancel t c a k ht =>
    rw [World.rollBack_eq] at stays ⊢
    refine Or.inl ⟨rfl, ?_⟩
    by_cases he : e = a
    · exact fun _ => Or.inr (he ▸ .cancelled ht)
    · exact stays (by simp [World.status, World.proceed, put, he])
  | @fail t m c a k f ht ha =>
    rw [World.rollBack_eq] at stays ⊢
    refine Or.inl ⟨rfl, ?_⟩
    by_cases he : e = a
    · exact fun _ => Or.inr (he ▸ .failed ht ha)
    · exact stays (by simp [World.status, World.proceed, put, he])
  | closed =>
    rw [World.sessionEvent_eq] at stays ⊢
    exact Or.inl ⟨rfl, stays rfl⟩
  | @ends t m a p s q ht h =>
    have notices : (((w.retire a).tells s).proceed t q []).noticesOf e =
        (w.retire a).noticesOf e := by
      rw [World.tells_retire]
      rfl
    have status : (((w.retire a).tells s).proceed t q []).status e = (w.retire a).status e := by
      rw [World.tells_retire]
      rfl
    rw [World.noticesOf_retire] at notices
    rw [World.retire_status] at status
    by_cases ending : w.isListed a ∧ a = e
    · obtain ⟨here, rfl⟩ := ending
      have gone := (after.tidy.isListed_eq_false_iff a).mpr (by simpa [here] using status)
      exact Or.inr ⟨⟨t, m, p, s, q, rfl, ht, h⟩, here, gone, by simpa [here] using notices⟩
    · have other : ¬ (w.isListed a ∧ e = a) := fun h => ending ⟨h.1, h.2.symm⟩
      simp only [ending, if_false, List.append_nil] at notices
      simp only [other, if_false] at status
      exact Or.inl ⟨notices, stays status⟩
  | unlist ht hi hs => exact absurd hs (sound.tidy.status_of_listed hi)
  | place ht hi hr =>
    refine Or.inl ⟨rfl, fun here => ?_⟩
    have made := sound.tidy.lt_made ((sound.tidy.isListed_iff e).mp here)
    have old : e ≠ w.made := Nat.ne_of_lt made
    exact stays (by simp [World.status, World.proceed, World.call, World.list, put, old]) here
  | @commit t m c a k name alive ht ha here =>
    rw [World.received_eq] at after stays ⊢
    refine Or.inl ⟨rfl, ?_⟩
    by_cases he : e = a
    · refine fun _ => Or.inl ((after.tidy.isListed_iff e).mpr ?_)
      simp [World.status, World.proceed, World.spawn, World.attach, World.setEntry, put, he]
    · exact stays (by
        simp [World.status, World.proceed, World.spawn, World.attach, World.setEntry, put, he])
  | @discard t m c a k name alive ht ha gone =>
    rw [World.received_eq] at stays ⊢
    refine Or.inl ⟨rfl, fun here => ?_⟩
    have other : e ≠ a := by
      rintro rfl
      exact Bool.false_ne_true (gone.symm.trans here)
    exact stays (by
      simp [World.status, World.proceed, World.tell, World.fail, World.setEntry, put, other]) here

end Move

namespace World

variable {w v : World} {e : EntryId}

/-- The end of a bridge is yet to come: it is listed, or not made yet. -/
def Ahead (w : World) (e : EntryId) : Prop := w.isListed e ∨ w.made ≤ e

/-- A bridge that comes is listed, and one that is off the list stays off it. -/
theorem Sound.ahead_of_apply (sound : w.Sound) {x : Event} (h : (w.apply x).Ahead e) :
    w.Ahead e := by
  have move := apply_move w x
  have after := sound.apply x
  by_cases made : e < w.made
  · refine Or.inl ((sound.tidy.isListed_iff e).mpr ?_)
    intro past
    have next := (move.grows sound made).status
    rw [show (w.entries e).status = .disconnected from past] at next
    rcases h with here | later
    · exact (after.tidy.isListed_iff e).mp here (Status.eq_of_disconnected_next next)
    · exact absurd (Nat.lt_of_lt_of_le made (move.made_le sound)) (Nat.not_lt_of_le later)
  · exact Or.inr (Nat.le_of_not_lt made)

theorem Sound.ahead_of_run (sound : w.Sound) {ys : List Event} (h : (w.run ys).Ahead e) :
    w.Ahead e := by
  induction ys generalizing w with
  | nil => exact h
  | cons y ys ih => exact sound.ahead_of_apply (ih (sound.apply y) h)

/-- When the end of a bridge comes, the bridge is on the list until then. -/
theorem Sound.isListed_of_ended (sound : w.Sound) {x : Event} (before : w.Ahead e)
    (ended : ¬ (w.apply x).Ahead e) : w.isListed e ∧ (w.apply x).isListed e = false := by
  have move := apply_move w x
  have gone : (w.apply x).isListed e = false :=
    Bool.eq_false_iff.mpr fun here => ended (Or.inl here)
  refine ⟨?_, gone⟩
  rcases before with here | later
  · exact here
  · have made : e < (w.apply x).made := Nat.lt_of_not_le fun later => ended (Or.inr later)
    have past := ((sound.apply x).tidy.isListed_eq_false_iff e).mp gone
    rw [move.status_new sound later made] at past
    cases past

/-- Nobody has heard of the end of a bridge before it came. -/
theorem noticesOf_of_ahead (zs : List Event) (h : (World.run {} zs).Ahead e) :
    (World.run {} zs).noticesOf e = [] := by
  have kept := run_keeps (P := fun w => w.Sound ∧ ∀ e, w.Ahead e → w.noticesOf e = [])
    (fun w x ⟨sound, silent⟩ => by
      refine ⟨sound.apply x, fun e ahead => ?_⟩
      have before := sound.ahead_of_apply ahead
      rcases (apply_move w x).noticesOf sound e with ⟨same, -⟩ | ⟨-, here, gone, -⟩
      · rw [same, silent e before]
      · have made := sound.tidy.lt_made ((sound.tidy.isListed_iff e).mp here)
        rcases ahead with listed | later
        · exact absurd (gone.symm.trans listed) Bool.false_ne_true
        · have still := Nat.lt_of_lt_of_le made ((apply_move w x).made_le sound)
          exact absurd still (Nat.not_lt_of_le later))
    {} ⟨sound_empty, fun _ _ => rfl⟩ zs
  exact kept.2 e h

/-- Nobody hears of a bridge again once it is off the list. -/
theorem Sound.noticesOf_run (sound : w.Sound) (made : e < w.made) (gone : w.isListed e = false)
    (ys : List Event) : (w.run ys).noticesOf e = w.noticesOf e := by
  have kept := run_keeps
    (P := fun v => v.Sound ∧ ¬ v.Ahead e ∧ v.noticesOf e = w.noticesOf e)
    (fun v x ⟨sound, past, same⟩ => by
      refine ⟨sound.apply x, fun ahead => past (sound.ahead_of_apply ahead), ?_⟩
      rcases (apply_move v x).noticesOf sound e with ⟨silent, -⟩ | ⟨-, here, -, -⟩
      · exact silent.trans same
      · exact absurd (Or.inl here) past)
    w ⟨sound, by simpa [Ahead, gone] using made, rfl⟩ ys
  exact kept.2.2

/-- A bridge that is off the list at the end of a run left it by one of the events. -/
theorem Sound.exists_leaving (sound : w.Sound) (before : w.Ahead e) {zs : List Event}
    (past : ¬ (w.run zs).Ahead e) : ∃ xs x ys, zs = xs ++ x :: ys ∧ (w.run xs).isListed e ∧
      (w.run (xs ++ [x])).isListed e = false := by
  induction zs generalizing w with
  | nil => exact absurd before past
  | cons z zs ih =>
    by_cases ahead : (w.apply z).Ahead e
    · obtain ⟨xs, x, ys, rfl, here, gone⟩ := ih (sound.apply z) ahead past
      exact ⟨z :: xs, x, ys, rfl, here, gone⟩
    · obtain ⟨here, gone⟩ := sound.isListed_of_ended before ahead
      exact ⟨[], z, zs, rfl, here, gone⟩

/-- A bridge that leaves the list is ended, and then all listeners hear of it in the whole run what
they hear at once, or it is taken back and nobody does. -/
theorem noticesOf_left {xs : List Event} {x : Event} (ys : List Event)
    (here : (World.run {} xs).isListed e) (gone : (World.run {} (xs ++ [x])).isListed e = false) :
    Removes (World.run {} xs) e x ∧
        (World.run {} (xs ++ x :: ys)).noticesOf e = (World.run {} xs).fanOut e ∨
      RollsBack (World.run {} xs) e x ∧ (World.run {} (xs ++ x :: ys)).noticesOf e = [] := by
  have sound := sound_run xs
  have silent := noticesOf_of_ahead xs (Or.inl here)
  have made := sound.tidy.lt_made ((sound.tidy.isListed_iff e).mp here)
  have move := apply_move (World.run {} xs) x
  have now : (World.run {} xs).apply x = World.run {} (xs ++ [x]) := (run_append {} xs [x]).symm
  have later : (World.run {} (xs ++ x :: ys)).noticesOf e =
      ((World.run {} xs).apply x).noticesOf e := by
    rw [run_append]
    exact (sound.apply x).noticesOf_run (Nat.lt_of_lt_of_le made (move.made_le sound))
      (now ▸ gone) ys
  rw [later]
  rcases move.noticesOf sound e with ⟨same, leaves⟩ | ⟨removes, -, -, heard⟩
  · rw [now] at leaves
    have rolled : RollsBack (World.run {} xs) e x := by
      rcases leaves here with still | rolled
      · exact absurd (gone.symm.trans still) Bool.false_ne_true
      · exact rolled
    exact Or.inr ⟨rolled, same.trans silent⟩
  · rw [silent, List.nil_append] at heard
    exact Or.inl ⟨removes, heard⟩

/-- While a bridge is listed, no listener has heard of it. When it leaves the list, it is ended or
taken back. If it is ended, each listener that there was by then hears of it once in the whole run,
when it is disconnected and no bridge is listed under its identity; if it is taken back, none does.
A bridge that was made and is not listed has left the list by some event. -/
theorem heard_exactly_once (zs : List Event) (e : EntryId) :
    ((World.run {} zs).isListed e → (World.run {} zs).noticesOf e = []) ∧
    (∀ xs x ys, zs = xs ++ x :: ys → (World.run {} xs).isListed e →
      (World.run {} (xs ++ [x])).isListed e = false →
      (Removes (World.run {} xs) e x ∨ RollsBack (World.run {} xs) e x) ∧
        (Removes (World.run {} xs) e x →
          (World.run {} zs).noticesOf e = (World.run {} xs).fanOut e) ∧
        (RollsBack (World.run {} xs) e x → (World.run {} zs).noticesOf e = [])) ∧
    (e < (World.run {} zs).made → (World.run {} zs).isListed e = false →
      ∃ xs x ys, zs = xs ++ x :: ys ∧ (World.run {} xs).isListed e ∧
        (World.run {} (xs ++ [x])).isListed e = false) := by
  refine ⟨fun here => noticesOf_of_ahead zs (Or.inl here), ?_, ?_⟩
  · rintro xs x ys rfl here gone
    rcases noticesOf_left ys here gone with ⟨removes, heard⟩ | ⟨rolled, silent⟩
    · exact ⟨Or.inl removes, fun _ => heard, fun rolled => absurd rolled removes.not_rollsBack⟩
    · exact ⟨Or.inr rolled, fun removes => absurd rolled removes.not_rollsBack, fun _ => silent⟩
  · intro made gone
    exact sound_empty.exists_leaving (Or.inr (Nat.zero_le e)) (by simpa [Ahead, gone] using made)

/-- A bridge whose session drops while a removal is on its way. -/
def dropping : List Event :=
  [.listen, .listen, .start (.ensureOpen ⟨"a"⟩ (some sampleRequest)), .run 0 {},
    .answer 0 (.session "s" true), .run 0 {}, .run 1 {}, .session (.drop 0),
    .start (.remove ⟨"a"⟩)]

/-- The watcher goes first, then one more listener comes, and the removal finds no bridge. -/
theorem heard_exactly_once_dropping :
    Removes (World.run {} dropping) 0 (.run 1 {}) ∧
      (World.run {} (dropping ++ .run 1 {} :: [.listen, .run 2 {}])).noticesOf 0 =
        [⟨0, 0, .disconnected, false⟩, ⟨1, 0, .disconnected, false⟩] := by
  have past : (World.run {} dropping).hasEnded 0 0 := by decide
  have removes : Removes (World.run {} dropping) 0 (.run 1 {}) :=
    ⟨1, {}, _, _, _, rfl, rfl, .ended past⟩
  have left := (heard_exactly_once (dropping ++ .run 1 {} :: [.listen, .run 2 {}]) 0).2.1 dropping
    (.run 1 {}) [.listen, .run 2 {}] rfl (by decide) (by decide)
  exact ⟨removes, left.2.1 removes⟩

end World
end BridgeKeeper.Bridge
