import BridgeKeeper.Proofs.Ssh.Forwards
import BridgeKeeper.Proofs.Ssh.Notices

/-!
# Calls that close a session

Any number of calls close a session at once, and may be cancelled. Each waits for no more than one
request at a time, which no other call waits for, and only the one that takes the forward down holds
it.
-/
namespace BridgeKeeper.Ssh

open Owner (asked)

variable {cs : List Command} {gs : List (Job × Except String Grant)}

namespace Session

variable {s : Session} {k : Nat}

structure Unclaimed (cs : List Command) (s : Session) (t : Ticket) : Prop where
  known : t < cs.length
  there : t ∉ s.owner.gone
  apart : ∀ i, (s.closings i).ticket? ≠ some t

/-- How far a call may come, as to what it waits for then. -/
inductive Fits (cs : List Command) (s : Session) : Closing → Prop
  | free {c : Closing} : c.ticket? = none → Fits cs s c
  | cancelling {t : Ticket} {address : String} {port : Nat} : Unclaimed cs s t →
    cs[t]? = some (.cancel address port) → Fits cs s (.cancelling t)
  | leaving {t : Ticket} : Unclaimed cs s t →
    ⟨t, .disconnect⟩ ∈ s.owner.known ∨ s.owner.isOpen = false → Fits cs s (.leaving t)

/-- How a session stands to whose owner these commands came. -/
structure Sound (cs : List Command) (gs : List (Job × Except String Grant)) (s : Session) : Prop where
  ordered : s.owner.Ordered cs gs
  accounted : s.owner.Accounted cs
  crowded : s.owner.Crowded
  noticed : s.owner.notices = s.owner.stage.notices
  called : ∀ k, s.called ≤ k → s.closings k = .returned
  holder : ∀ j, s.holder = some j → ∃ t, s.closings j = .cancelling t
  cancels : ∀ {k t}, s.closings k = .cancelling t → ∃ address port, cs[t]? = some (.cancel address port)
  leaves : ∀ {k t}, s.closings k = .leaving t →
    ⟨t, .disconnect⟩ ∈ s.owner.known ∨ s.owner.isOpen = false
  known : ∀ {k t}, (s.closings k).ticket? = some t → t < cs.length
  there : ∀ {k t}, (s.closings k).ticket? = some t → t ∉ s.owner.gone
  own : ∀ {i k t}, (s.closings i).ticket? = some t → (s.closings k).ticket? = some t → i = k

theorem sound_start (f : Option Active) : Sound [] [] { forward := f } where
  ordered := Owner.ordered_start
  accounted := Owner.accounted_start
  crowded := .inl rfl
  noticed := rfl
  called _ _ := rfl
  holder _ held := by cases held
  cancels closing := by cases closing
  leaves closing := by cases closing
  known waits := by cases waits
  there waits := by cases waits
  own waits := by cases waits

theorem Sound.lt_called (h : s.Sound cs gs) (pending : s.closings k ≠ .returned) : k < s.called :=
  Nat.lt_of_not_le fun late => pending (h.called k late)

/-- Something happens to the owner that is not the going away of a call that closes the session. -/
theorem Sound.onOwner (h : s.Sound cs gs) {x : Owner.Event}
    (spares : ∀ k t, (s.closings k).ticket? = some t → x ≠ .forget t) :
    ({ s with owner := s.owner.apply x } : Session).Sound (cs ++ asked [x]) (gs ++ s.owner.hears x) := by
  have turn := Owner.apply_turn s.owner x
  have later {t : Ticket} {c : Command} (known : cs[t]? = some c) : (cs ++ asked [x])[t]? = some c := by
    rw [List.getElem?_append_left (List.getElem?_eq_some_iff.mp known).1, known]
  exact
    { ordered := h.ordered.turn turn
      accounted := h.accounted.turn h.ordered turn
      crowded := turn.crowded h.crowded
      noticed := turn.notices_eq h.noticed
      called := h.called
      holder := h.holder
      cancels := fun closing => (h.cancels closing).imp fun _ => Exists.imp fun _ => later
      leaves := fun {k t} closing => by
        rcases h.leaves closing with known | closed
        · exact turn.keeps_known known (spares k t (by rw [closing]; rfl))
        · exact .inr (h.ordered.stays closed turn).1
      known := fun waits => Nat.lt_of_lt_of_le (h.known waits) (by simp)
      there := fun waits gone => (turn.gone_cases gone).elim (h.there waits) (spares _ _ waits)
      own := h.own }

/-- A call goes on, and may take up or leave the forward. -/
theorem Sound.goOn (h : s.Sound cs gs) {c : Closing} (fits : Fits cs s c)
    (called : s.closings k ≠ .returned) {holder : Option Nat}
    (holds : ∀ j, holder = some j → if j = k then ∃ t, c = .cancelling t else s.holder = some j)
    (f : Option Active) (stopped : List ListenerId) :
    ({ s with holder := holder, forward := f, stopped := stopped }.setClosing k c).Sound cs gs := by
  have same : put s.closings k c k = c := put_same _ _ _
  have other {i : Nat} (apart : i ≠ k) : put s.closings k c i = s.closings i := put_other _ _ apart
  have free {t : Ticket} (waits : c.ticket? = some t) : Unclaimed cs s t := by
    cases fits with
    | free none => cases none.symm.trans waits
    | cancelling unclaimed known =>
      cases waits
      exact unclaimed
    | leaving unclaimed known =>
      cases waits
      exact unclaimed
  refine
    { ordered := h.ordered, accounted := h.accounted, crowded := h.crowded, noticed := h.noticed
      called := fun i late => ?_, holder := fun j held => ?_, cancels := fun {i t} closing => ?_
      leaves := fun {i t} closing => ?_, known := fun {i t} waits => ?_, there := fun {i t} waits => ?_
      own := fun {i j t} first second => ?_ }
  · have apart : i ≠ k := fun same => Nat.not_le_of_lt (h.lt_called called) (same ▸ late)
    exact (other apart).trans (h.called i late)
  · have holds := holds j held
    by_cases mine : j = k
    · subst mine
      obtain ⟨t, rfl⟩ := (if_pos rfl).mp holds
      exact ⟨t, same⟩
    · rw [if_neg mine] at holds
      exact (h.holder j holds).imp fun t closing => (other mine).trans closing
  · by_cases mine : i = k
    · subst mine
      cases same.symm.trans closing
      cases fits with
      | free none => cases none
      | cancelling unclaimed known => exact ⟨_, _, known⟩
    · exact h.cancels ((other mine).symm.trans closing)
  · by_cases mine : i = k
    · subst mine
      cases same.symm.trans closing
      cases fits with
      | free none => cases none
      | leaving unclaimed known => exact known
    · exact h.leaves ((other mine).symm.trans closing)
  · by_cases mine : i = k
    · subst mine
      exact (free ((congrArg _ same).symm.trans waits)).known
    · exact h.known ((congrArg _ (other mine)).symm.trans waits)
  · by_cases mine : i = k
    · subst mine
      exact (free ((congrArg _ same).symm.trans waits)).there
    · exact h.there ((congrArg _ (other mine)).symm.trans waits)
  · by_cases mine : i = k <;> by_cases mine' : j = k
    · rw [mine, mine']
    · subst mine
      exact absurd ((congrArg _ (other mine')).symm.trans second)
        ((free ((congrArg _ same).symm.trans first)).apart j)
    · subst mine'
      exact absurd ((congrArg _ (other mine)).symm.trans first)
        ((free ((congrArg _ same).symm.trans second)).apart i)
    · exact h.own ((congrArg _ (other mine)).symm.trans first) ((congrArg _ (other mine')).symm.trans second)

/-- A request that is made now is claimed by no call. -/
theorem Sound.unclaimed (h : s.Sound cs gs) (c : Command) :
    Unclaimed (cs ++ [c]) { s with owner := s.owner.request c } s.owner.requests where
  known := by simp [h.ordered.counted]
  there gone := by
    rcases (Owner.apply_turn s.owner (.request c)).gone_cases gone with before | now
    · exact Nat.lt_irrefl _ (h.ordered.counted ▸ h.ordered.gone _ before)
    · cases now
  apart i waits := Nat.lt_irrefl _ (h.ordered.counted ▸ h.known waits)

theorem Sound.request (h : s.Sound cs gs) (c : Command) :
    ({ s with owner := s.owner.request c } : Session).Sound (cs ++ [c]) gs := by
  have made := h.onOwner (x := .request c) fun _ _ _ => nofun
  have silent : s.owner.hears (.request c) = [] := rfl
  rw [silent, List.append_nil] at made
  exact made

/-- What a call that closes the session leaves as it is when it goes on. -/
theorem Sound.keepsHolder (h : s.Sound cs gs) (idle : ∀ t, s.closings k ≠ .cancelling t) {c : Closing} :
    ∀ j, s.holder = some j → if j = k then ∃ t, c = .cancelling t else s.holder = some j := by
  intro j held
  obtain ⟨t, closing⟩ := h.holder j held
  have other : j ≠ k := fun mine => idle t (mine ▸ closing)
  rwa [if_neg other]

theorem Sound.takeDown (h : s.Sound cs gs) (closing : s.closings k = .started) :
    (s.apply (.advance k)).Sound (cs ++ s.sends (.advance k)) gs := by
  have called : s.closings k ≠ .returned := by simp [closing]
  have nobody (c : Closing) : ∀ j, (none : Option Nat) = some j →
      if j = k then ∃ t, c = .cancelling t else s.holder = some j := nofun
  rw [apply, advance, sends, closing]
  dsimp only
  rw [Session.takeDown]
  cases held : s.holder with
  | some j =>
    rw [List.append_nil]
    exact h
  | none =>
    cases forward : s.forward with
    | none =>
      have next := h.goOn (.free rfl) called (nobody .cleared) s.forward s.stopped
      rw [List.append_nil]
      rwa [← held] at next
    | some a =>
      cases a with
      | listener l =>
        rw [List.append_nil]
        exact h.goOn (.free rfl) called (nobody .cleared) none (s.stopped ++ [l])
      | granted address port =>
        have known : (cs ++ [.cancel address port])[s.owner.requests]? = some (.cancel address port) := by
          rw [h.ordered.counted, List.getElem?_concat_length]
        refine (h.request (.cancel address port)).goOn (k := k)
          (.cancelling (h.unclaimed _) known) called (fun j (mine : some k = some j) => ?_) none s.stopped
        cases mine
        rw [if_pos rfl]
        exact ⟨_, rfl⟩

theorem Sound.advance (h : s.Sound cs gs) (k : Nat) :
    (s.apply (.advance k)).Sound (cs ++ s.sends (.advance k)) gs := by
  cases closing : s.closings k with
  | started => exact h.takeDown closing
  | cancelling t =>
    have called : s.closings k ≠ .returned := by simp [closing]
    have silent : s.sends (.advance k) = [] := by simp [sends, closing]
    rw [silent, List.append_nil, apply, Session.advance, closing]
    dsimp only
    split
    · exact h.goOn (.free rfl) called (fun j held => by cases held) s.forward s.stopped
    · exact h
  | cleared =>
    have called : s.closings k ≠ .returned := by simp [closing]
    have idle (t : Ticket) : s.closings k ≠ .cancelling t := by simp [closing]
    have sends : s.sends (.advance k) = [.disconnect] := by simp [sends, closing]
    rw [sends, apply, Session.advance, closing]
    refine (h.request .disconnect).goOn (k := k) (.leaving (h.unclaimed _) ?_) called
      (h.keepsHolder idle) s.forward s.stopped
    exact (Owner.apply_turn s.owner (.request .disconnect)).requested
  | leaving t =>
    have called : s.closings k ≠ .returned := by simp [closing]
    have idle (t : Ticket) : s.closings k ≠ .cancelling t := by simp [closing]
    have silent : s.sends (.advance k) = [] := by simp [sends, closing]
    rw [silent, List.append_nil, apply, Session.advance, closing]
    dsimp only
    split
    · exact h
    · exact h.goOn (.free rfl) called (h.keepsHolder idle) s.forward s.stopped
  | returned =>
    have silent : s.sends (.advance k) = [] := by simp [sends, closing]
    rw [silent, List.append_nil, apply, Session.advance, closing]
    exact h

theorem Sound.close (h : s.Sound cs gs) : (s.apply .close).Sound cs gs := by
  have same : put s.closings s.called Closing.started s.called = .started := put_same _ _ _
  have other {i : Nat} (apart : i ≠ s.called) :
      put s.closings s.called Closing.started i = s.closings i := put_other _ _ apart
  -- The new call waits for nothing yet.
  have back {i : Nat} {c : Closing} (closing : put s.closings s.called Closing.started i = c)
      (further : c ≠ .started) : s.closings i = c := by
    by_cases new : i = s.called
    · subst new
      exact absurd (closing.symm.trans same) further
    · exact (other new).symm.trans closing
  have waiting {i : Nat} {t : Ticket}
      (waits : (put s.closings s.called Closing.started i).ticket? = some t) :
      (s.closings i).ticket? = some t := by
    rw [back rfl fun same => ?_]
    · exact waits
    · rw [same] at waits
      cases waits
  exact
    { ordered := h.ordered, accounted := h.accounted, crowded := h.crowded, noticed := h.noticed
      called := fun i late => (other (Nat.ne_of_gt late)).trans (h.called i (Nat.le_of_succ_le late))
      holder := fun j held => by
        obtain ⟨t, closing⟩ := h.holder j held
        have old : j ≠ s.called := Nat.ne_of_lt (h.lt_called (by simp [closing]))
        exact ⟨t, (other old).trans closing⟩
      cancels := fun closing => h.cancels (back closing nofun)
      leaves := fun closing => h.leaves (back closing nofun)
      known := fun waits => h.known (waiting waits)
      there := fun waits => h.there (waiting waits)
      own := fun first second => h.own (waiting first) (waiting second) }

theorem Sound.cancel (h : s.Sound cs gs) (pending : s.closings k ≠ .returned) :
    (s.cancel k).Sound cs gs := by
  -- The call is over before its request is given up, so that no call waits for that.
  have gives {t : Ticket} (waits : (s.closings k).ticket? = some t) {s' : Session}
      (past : s'.Sound cs gs) (closings : s'.closings = put s.closings k .returned) :
      ({ s' with owner := s'.owner.forget t } : Session).Sound cs gs := by
    have given := past.onOwner (x := .forget t) fun i t' claimed same => by
      cases same
      rw [closings] at claimed
      by_cases mine : i = k
      · rw [mine, put_same] at claimed
        cases claimed
      · rw [put_other _ _ mine] at claimed
        exact mine (h.own claimed waits)
    have asks : asked [.forget t] = [] := rfl
    have silent : s'.owner.hears (.forget t) = [] := rfl
    rw [asks, silent, List.append_nil, List.append_nil] at given
    exact given
  rw [Session.cancel]
  cases closing : s.closings k with
  | started =>
    have idle (t : Ticket) : s.closings k ≠ .cancelling t := by simp [closing]
    exact h.goOn (.free rfl) pending (h.keepsHolder idle) s.forward s.stopped
  | cancelling t =>
    have past := h.goOn (.free (c := .returned) rfl) pending
      (fun j (held : none = some j) => by cases held) s.forward s.stopped
    exact gives (by rw [closing]; rfl) past rfl
  | cleared =>
    have idle (t : Ticket) : s.closings k ≠ .cancelling t := by simp [closing]
    exact h.goOn (.free rfl) pending (h.keepsHolder idle) s.forward s.stopped
  | leaving t =>
    have idle (t : Ticket) : s.closings k ≠ .cancelling t := by simp [closing]
    have past := h.goOn (.free (c := .returned) rfl) pending (h.keepsHolder idle) s.forward s.stopped
    exact gives (by rw [closing]; rfl) past rfl
  | returned => exact absurd closing pending

/-! ## What calls wait for -/

theorem closings_setClosing (s : Session) (k i : Nat) (c : Closing) :
    (s.setClosing k c).closings i = if i = k then c else s.closings i := rfl

/-- A call that waits for its turn to take the forward down waits for another call. -/
theorem held_of_started (closing : s.closings k = .started) (still : s.apply (.advance k) = s) :
    ∃ j, s.holder = some j := by
  cases held : s.holder with
  | some j => exact ⟨j, rfl⟩
  | none =>
    have same := congrArg (fun s => s.closings k) still
    simp only [apply, advance, closing, takeDown, held] at same
    cases forward : s.forward with
    | none => simp [forward, closings_setClosing] at same
    | some a => cases a <;> simp [forward, closings_setClosing] at same

theorem unanswered_of_cancelling {t : Ticket} (closing : s.closings k = .cancelling t)
    (still : s.apply (.advance k) = s) : s.owner.answer? t = none := by
  have same := congrArg (fun s => s.closings k) still
  cases answer : s.owner.answer? t with
  | none => rfl
  | some a => simp [apply, advance, closing, answer, closings_setClosing] at same

theorem not_cleared (still : s.apply (.advance k) = s) : s.closings k ≠ .cleared := by
  intro closing
  have same := congrArg (fun s => s.closings k) still
  simp [apply, advance, closing, closings_setClosing] at same

theorem outside_of_leaving {t : Ticket} (closing : s.closings k = .leaving t)
    (still : s.apply (.advance k) = s) : ∃ j ∈ s.owner.placed ++ s.owner.waiting, j.ticket = t := by
  cases waits : (s.owner.placed ++ s.owner.waiting).any (·.ticket = t) with
  | true =>
    obtain ⟨j, there, same⟩ := List.any_eq_true.mp waits
    exact ⟨j, there, of_decide_eq_true same⟩
  | false =>
    have same := congrArg (fun s => s.closings k) still
    simp only [apply, advance, closing, waits] at same
    simp [closings_setClosing] at same

end Session
end BridgeKeeper.Ssh
