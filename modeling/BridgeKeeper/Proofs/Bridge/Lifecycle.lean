import BridgeKeeper.Proofs.Bridge.Invariant
import Mathlib.Logic.ExistsUnique

/-!
# The life of a bridge

A bridge is listed from its making until it is disconnected, and nothing lists it again. While it is
connecting, one task waits for the transport on its behalf; once it is connected it has a session.
-/
namespace BridgeKeeper

theorem head?_append {p : String} {c : Char} (r : String) (head : p.toList.head? = some c) :
    (p ++ r).toList.head? = some c := by
  simp [head]

theorem append_ne_of_head {p s : String} {c : Char} (r : String) (head : p.toList.head? = some c)
    (other : s.toList.head? ≠ some c) : p ++ r ≠ s := by
  rintro rfl
  exact other (head?_append r head)

/-- No error of the transport reads like the end of a session. -/
theorem Ssh.Error.message_ne_sessionClosed (x : Ssh.Error) : x.message ≠ "session closed" := by
  cases x with
  | disconnected => decide
  | _ => exact append_ne_of_head _ rfl (by decide)

namespace Bridge

/-- From a state to the same one or a later one, by one arrow. -/
inductive Status.Next : Status → Status → Prop
  | stay (s : Status) : Next s s
  | connect : Next .connecting .connected
  | fail : Next .connecting .disconnected
  | drop : Next .connected .disconnected

namespace Status

theorem next_disconnected (s : Status) : Next s .disconnected := by
  cases s with
  | connecting => exact .fail
  | connected => exact .drop
  | disconnected => exact .stay _

theorem eq_of_disconnected_next {s : Status} (h : Next .disconnected s) : s = .disconnected := by
  cases h
  rfl

theorem Next.trans {s t u : Status} (h : s.Next t) (h' : t.Next u) : s.Next u := by
  cases h with
  | stay => exact h'
  | connect =>
    cases h' with
    | stay => exact .connect
    | drop => exact .fail
  | fail | drop =>
    rw [eq_of_disconnected_next h']
    exact next_disconnected _

end Status

/-- How a bridge changes: its state moves on, a session and a failure stay once they are there, and
a failure that comes says more than what is said without one. -/
structure Entry.Grows (b d : Entry) : Prop where
  status : b.status.Next d.status
  identity : d.identity = b.identity
  session {s : SessionId} : b.session = some s → d.session = some s
  failure {f : String} : b.failure = some f → d.failure = some f
  reason {f : String} : b.failure = none → d.failure = some f → f ≠ "session closed"

namespace Entry

variable {b : Entry}

/-- Where only the state changes, nothing else is to be shown. -/
theorem grows_status {s : Status} (next : b.status.Next s) : b.Grows { b with status := s } := by
  refine ⟨next, rfl, id, id, ?_⟩
  intro f none some
  rw [none] at some
  cases some

theorem Grows.refl (b : Entry) : b.Grows b :=
  grows_status (.stay b.status)

theorem Grows.trans {c d : Entry} (h : b.Grows c) (h' : c.Grows d) : b.Grows d := by
  refine ⟨h.status.trans h'.status, h'.identity.trans h.identity,
    fun hs => h'.session (h.session hs), fun hf => h'.failure (h.failure hf), ?_⟩
  intro f none noted
  cases hc : c.failure with
  | none => exact h'.reason hc noted
  | some g =>
    have same : g = f := Option.some.inj ((h'.failure hc).symm.trans noted)
    exact h.reason none (same ▸ hc)

theorem grows_note (bare : b.failure = none) {reason : String} (h : reason ≠ "session closed") :
    b.Grows { b with failure := some reason, status := .disconnected } := by
  refine ⟨Status.next_disconnected _, rfl, id, ?_, ?_⟩
  · intro f noted
    rw [bare] at noted
    cases noted
  · intro f _ noted
    exact Option.some.inj noted ▸ h

theorem grows_attach (connecting : b.status = .connecting) (bare : b.session = none)
    (s : SessionId) : b.Grows { b with session := some s, status := .connected } := by
  refine ⟨by rw [connecting]; exact .connect, rfl, ?_, id, (Grows.refl b).reason⟩
  intro u session
  rw [bare] at session
  cases session

end Entry

namespace World

variable {w v : World} {t : TaskId} {e : EntryId} {k : CallId}

def Opens (w : World) (t : TaskId) (e : EntryId) : Prop :=
  ∃ k c, w.IsOpening t e k ∧ w.calls[k]? = some c ∧ c.identity = (w.entries e).identity

namespace Sound

theorem connecting_of_opening (sound : w.Sound) (opening : w.IsOpening t e k)
    (here : w.isListed e) : w.status e = .connecting := by
  have alive := (sound.tidy.isListed_iff e).mp here
  have bare := (sound.manned.bare opening).1
  have proper := sound.tidy.proper e
  rw [Entry.Proper] at proper
  rw [status] at alive ⊢
  cases hs : (w.entries e).status with
  | connecting => rfl
  | connected =>
    rw [hs] at proper
    exact absurd bare proper.1
  | disconnected => exact absurd hs alive

/-- A bridge that is connecting has exactly one opener. -/
theorem existsUnique_opens (sound : w.Sound) (h : w.status e = .connecting) :
    ∃! t, w.Opens t e := by
  obtain ⟨t, k, opening⟩ := sound.manned.opener h
  obtain ⟨c, call, identity⟩ := sound.manned.called opening
  refine ⟨t, ⟨k, c, opening, call, identity⟩, ?_⟩
  rintro u ⟨l, -, other, -⟩
  exact sound.manned.alone other opening

/-- What is listed under an identity. -/
theorem of_listed (sound : w.Sound) {i : Identity} (h : w.listed i = some e) :
    (w.entries e).identity = i ∧
      (w.status e = .connecting ∧ (w.entries e).session = none ∧ (∃! t, w.Opens t e) ∨
        w.status e = .connected ∧ ∃ s, (w.entries e).session = some s) := by
  refine ⟨sound.tidy.identity h, ?_⟩
  have alive := sound.tidy.status_of_listed h
  have proper := sound.tidy.proper e
  rw [Entry.Proper] at proper
  cases hs : w.status e with
  | connecting =>
    rw [show (w.entries e).status = .connecting from hs] at proper
    exact Or.inl ⟨rfl, proper.1, sound.existsUnique_opens hs⟩
  | connected =>
    rw [show (w.entries e).status = .connected from hs] at proper
    exact Or.inr ⟨rfl, Option.ne_none_iff_exists'.mp proper.1⟩
  | disconnected => exact absurd hs alive

end Sound
end World

/-- A bridge that was made only grows. -/
theorem EntryChange.grows {w v : World} {x : Event} {e : EntryId} {b : Entry}
    (h : EntryChange w e x v b) (sound : w.Sound) (made : e < w.made) : (w.entries e).Grows b := by
  cases h with
  | kept => exact .refl _
  | placed ht hi new => exact absurd new (Nat.ne_of_lt made)
  | ended => exact Entry.grows_status (Status.next_disconnected _)
  | @connected t m c k name alive v ht ha here =>
    have connecting := sound.connecting_of_opening ⟨c, ht⟩ here
    exact Entry.grows_attach connecting (sound.manned.bare ⟨c, ht⟩).1 _
  | @cancelled t c k v ht => exact Entry.grows_note (sound.manned.bare ⟨c, ht⟩).2 (by decide)
  | @discarded t m c k name alive v ht =>
    exact Entry.grows_note (sound.manned.bare ⟨c, ht⟩).2 (by decide)
  | @failed t m c k f v ht =>
    exact Entry.grows_note (sound.manned.bare ⟨c, ht⟩).2 f.message_ne_sessionClosed

namespace Move

variable {w v : World} {x : Event} {e : EntryId}

theorem grows (h : Move w x v) (sound : w.Sound) (made : e < w.made) :
    (w.entries e).Grows (v.entries e) :=
  (h.entry e).grows sound made

/-- A new bridge is connecting. -/
theorem status_new (h : Move w x v) (sound : w.Sound) (old : w.made ≤ e) (made : e < v.made) :
    v.status e = .connecting := by
  have stuck (same : v.made = w.made) : v.status e = .connecting :=
    absurd (same ▸ made) (Nat.not_lt_of_le old)
  cases h with
  | rest | start | answer | listen | session | reply | abort | pass => exact stuck rfl
  | cancel | fail => exact stuck (by rw [World.rollBack_eq]; rfl)
  | ends => exact stuck (by rw [World.tells_retire]; rfl)
  | closed => exact stuck (by rw [World.sessionEvent_eq]; rfl)
  | unlist ht hi hs => exact absurd hs (sound.tidy.status_of_listed hi)
  | commit | discard => exact stuck (by rw [World.received_eq]; rfl)
  | place =>
    have new : e = w.made := Nat.le_antisymm (Nat.le_of_lt_succ made) old
    simp [World.status, World.proceed, World.call, World.list, put, new, Entry.placeholder]

theorem made_le (h : Move w x v) (sound : w.Sound) : w.made ≤ v.made := by
  cases h with
  | rest | start | answer | listen | session | reply | abort | pass => exact Nat.le_refl _
  | cancel | fail => rw [World.rollBack_eq]; exact Nat.le_refl _
  | ends => rw [World.tells_retire]; exact Nat.le_refl _
  | closed => rw [World.sessionEvent_eq]; exact Nat.le_refl _
  | unlist ht hi hs => exact absurd hs (sound.tidy.status_of_listed hi)
  | commit | discard => rw [World.received_eq]; exact Nat.le_refl _
  | place => exact Nat.le_succ _

end Move

namespace World

variable {w : World} {e : EntryId}

theorem Sound.made_le_run (sound : w.Sound) (ys : List Event) : w.made ≤ (w.run ys).made := by
  induction ys generalizing w with
  | nil => exact Nat.le_refl _
  | cons y ys ih => exact Nat.le_trans ((apply_move w y).made_le sound) (ih (sound.apply y))

/-- A bridge grows along a run as it does by one event. -/
theorem Sound.run_grows (sound : w.Sound) (made : e < w.made) (ys : List Event) :
    e < (w.run ys).made ∧ (w.entries e).Grows ((w.run ys).entries e) := by
  have kept := run_keeps
    (P := fun v => v.Sound ∧ e < v.made ∧ (w.entries e).Grows (v.entries e))
    (fun v x ⟨sound, made, grows⟩ => by
      have move := apply_move v x
      exact ⟨sound.apply x, Nat.lt_of_lt_of_le made (move.made_le sound),
        grows.trans (move.grows sound made)⟩)
    w ⟨sound, made, .refl _⟩ ys
  exact kept.2

/-- A bridge that is over stays over. -/
theorem Sound.run_disconnected (sound : w.Sound) (made : e < w.made)
    (past : w.status e = .disconnected) (ys : List Event) : (w.run ys).status e = .disconnected := by
  have next := (sound.run_grows made ys).2.status
  rw [show (w.entries e).status = .disconnected from past] at next
  exact Status.eq_of_disconnected_next next

/-- In every world that a run leads to, a bridge that is listed stands under its own identity; it is
connecting, without a session and with one task inside the call of the transport for it, or
connected with a session. A bridge that has left the list is never listed again. A new bridge is
connecting, and the state of a bridge moves on along `Status.Next` alone. -/
theorem lifecycle (xs : List Event) :
    (∀ i e, (World.run {} xs).listed i = some e →
      ((World.run {} xs).entries e).identity = i ∧
        ((World.run {} xs).status e = .connecting ∧
            ((World.run {} xs).entries e).session = none ∧ (∃! t, (World.run {} xs).Opens t e) ∨
          (World.run {} xs).status e = .connected ∧
            ∃ s, ((World.run {} xs).entries e).session = some s)) ∧
    (∀ e, e < (World.run {} xs).made → (World.run {} xs).isListed e = false →
      ∀ ys, (World.run {} (xs ++ ys)).isListed e = false) ∧
    (∀ e x, (World.run {} xs).made ≤ e → e < (World.run {} (xs ++ [x])).made →
      (World.run {} (xs ++ [x])).status e = .connecting) ∧
    ∀ e x, e < (World.run {} xs).made →
      ((World.run {} xs).status e).Next ((World.run {} (xs ++ [x])).status e) := by
  have sound := sound_run xs
  refine ⟨fun i e h => sound.of_listed h, ?_, ?_, ?_⟩
  · intro e made gone ys
    rw [run_append]
    have past := (sound.tidy.isListed_eq_false_iff e).mp gone
    exact ((sound.run ys).tidy.isListed_eq_false_iff e).mpr (sound.run_disconnected made past ys)
  · intro e x old made
    rw [run_append] at made ⊢
    exact (apply_move _ x).status_new sound old made
  · intro e x made
    rw [run_append]
    exact ((apply_move _ x).grows sound made).status

def sampleRequest : Request := ⟨⟨"h", "u", "p", 22, []⟩, none⟩

/-- A bridge is removed while it is connecting, and its identity is asked for again. -/
def replaced : List Event :=
  [.start (.ensureOpen ⟨"a"⟩ (some sampleRequest)), .run 0 {}, .start (.remove ⟨"a"⟩), .run 1 {},
    .start (.ensureOpen ⟨"a"⟩ (some sampleRequest))]

theorem lifecycle_replaced :
    (∃! t, (World.run {} (replaced ++ [.run 2 {}])).Opens t 1) ∧
      (∀ ys, (World.run {} (replaced ++ ys)).isListed 0 = false) ∧
      (World.run {} (replaced ++ [.run 2 {}])).status 1 = .connecting ∧
      Status.Next .connecting
        ((World.run {}
          (replaced ++ [.run 2 {}, .answer 1 (.session "s" true)] ++ [.run 2 {}])).status 1) := by
  obtain ⟨-, gone, new, -⟩ := lifecycle replaced
  obtain ⟨listed, -⟩ := lifecycle (replaced ++ [.run 2 {}])
  obtain ⟨-, -, -, moves⟩ := lifecycle (replaced ++ [.run 2 {}, .answer 1 (.session "s" true)])
  refine ⟨?_, gone 0 (by decide) (by decide), new 1 (.run 2 {}) (by decide) (by decide),
    moves 1 (.run 2 {}) (by decide)⟩
  rcases (listed ⟨"a"⟩ 1 (by decide)).2 with ⟨-, -, opener⟩ | ⟨connected, -⟩
  · exact opener
  · exact absurd connected (by decide)

end World
end Bridge
end BridgeKeeper
