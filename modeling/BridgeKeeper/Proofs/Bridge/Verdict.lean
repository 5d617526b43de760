import BridgeKeeper.Proofs.Bridge.Closing

/-!
# What is said of a bridge

Who opened a bridge and who waited for it are told what stands in the bridge when they return. That
changes once more after the bridge has left the list: until its opener notes why it failed, nothing
is known but that it is gone, and a connected bridge that is gone says nothing of its success.
-/
namespace BridgeKeeper.Bridge

namespace World

variable {w v : World} {e : EntryId}

/-- It stands in the bridge how its open ended: it is connected, or its failure is noted. -/
def Decided (w : World) (e : EntryId) : Prop :=
  w.status e = .connected ∨ (w.entries e).failure ≠ none

theorem Sound.not_connecting_of_decided (sound : w.Sound) (decided : w.Decided e) :
    w.status e ≠ .connecting := by
  intro connecting
  rcases decided with connected | noted
  · rw [connecting] at connected
    cases connected
  · obtain ⟨t, k, opening⟩ := sound.manned.opener connecting
    exact noted (sound.manned.bare opening).2

/-- A bridge that has been connected has no failure. -/
theorem Sound.failure_of_session (sound : w.Sound) {s : SessionId}
    (session : (w.entries e).session = some s) : (w.entries e).failure = none := by
  have proper := sound.tidy.proper e
  rw [Entry.Proper] at proper
  split at proper
  · exact proper.2
  · exact proper.2
  · rcases proper with bare | plain
    · rw [bare] at session
      cases session
    · exact plain

theorem verdict_eq_ok_iff {b : EntryId} :
    w.verdict e = .ok b ↔ w.status e = .connected ∧ e = b := by
  rw [verdict]
  split
  · next connected => simp [connected]
  · next other => simp [other]

theorem verdict_of_connected (h : w.status e = .connected) : w.verdict e = .ok e := by
  simp [verdict, h]

theorem verdict_of_disconnected (h : w.status e = .disconnected) :
    w.verdict e = .error (.openFailure (w.entries e).identity
      ((w.entries e).failure.getD "session closed")) := by
  simp [verdict, h, Entry.openFailure]

/-- What is said of a bridge once it is not connecting any more is what is said of it later exactly
where its open has ended at both times, or at neither. -/
theorem Sound.verdict_eq_iff (sound : w.Sound) (made : e < w.made)
    (settled : w.status e ≠ .connecting) (ys : List Event) :
    w.verdict e = (w.run ys).verdict e ↔ (w.Decided e ↔ (w.run ys).Decided e) := by
  have grows := (sound.run_grows made ys).2
  have next : (w.status e).Next ((w.run ys).status e) := grows.status
  cases hs : w.status e with
  | connecting => exact absurd hs settled
  | connected =>
    rw [hs] at next
    cases hv : (w.run ys).status e with
    | connecting =>
      rw [hv] at next
      cases next
    | connected =>
      simp [verdict_of_connected hs, verdict_of_connected hv, Decided, hs, hv]
    | disconnected =>
      have here := (sound.tidy.listed_iff e).mpr (by simp [hs])
      obtain ⟨-, ⟨connecting, -⟩ | ⟨-, s, session⟩⟩ := sound.of_listed here
      · rw [hs] at connecting
        cases connecting
      · have plain := (sound.run ys).failure_of_session (grows.session session)
        simp [verdict_of_connected hs, verdict_of_disconnected hv, Decided, hs, hv, plain]
  | disconnected =>
    have hv := sound.run_disconnected made hs ys
    rw [verdict_of_disconnected hs, verdict_of_disconnected hv, grows.identity]
    cases hf : (w.entries e).failure with
    | some f => simp [Decided, hf, grows.failure hf]
    | none =>
      cases hg : ((w.run ys).entries e).failure with
      | none => simp [Decided, hs, hv, hf, hg]
      | some g =>
        have other := grows.reason hf hg
        simp [Decided, hs, hv, hf, hg, Ne.symm other]

/-! ## Those who are told -/

def AwaitsMade (w : World) : Prop :=
  ∀ t p e, w.tasks t = some p → p.awaited = some e → e < w.made

end World

theorem Move.awaitsMade {w v : World} {x : Event} (h : Move w x v) (sound : w.Sound)
    (awaits : w.AwaitsMade) : v.AwaitsMade := by
  intro t q e ht hq
  have grown := h.made_le sound
  cases h.task ht with
  | kept old => exact Nat.lt_of_lt_of_le (awaits t q e old hq) grown
  | passed old h =>
    rcases h.awaited with none | ⟨i, a, hi, new⟩
    · rw [none] at hq
      cases hq
    · have made := sound.tidy.lt_made (sound.tidy.status_of_listed hi)
      rw [new, Option.some.injEq] at hq
      exact hq ▸ Nat.lt_of_lt_of_le made grown
  | @started o =>
    rw [o.start_awaited] at hq
    cases hq
  | ended old h =>
    rw [h.awaited] at hq
    cases hq
  | @closed m a s z =>
    rw [z.after_awaited] at hq
    cases hq
  | @answered m c =>
    rw [(c.after_hasResult _).awaited] at hq
    cases hq
  | opening | discarded | replied | aborted | watching => cases hq

theorem World.awaitsMade_run (xs : List Event) : (World.run {} xs).AwaitsMade := by
  have start : World.AwaitsMade {} := by
    intro t p e h
    cases h
  have kept := World.run_keeps (P := fun w => w.Sound ∧ w.AwaitsMade)
    (fun w x h => ⟨h.1.apply x, (World.apply_move w x).awaitsMade h.1 h.2⟩) {}
    ⟨World.sound_empty, start⟩ xs
  exact kept.2

/-- Who is told about a bridge: the caller that opened it, and those that waited for it. -/
inductive Role where
  | opener
  | waiter
deriving DecidableEq

/-- An event in which a caller is told about a bridge, with what it is told. -/
inductive Returns (w : World) (e : EntryId) : Event → Role → Except Error EntryId → Prop
  | opener {t m c k a r} : w.tasks t = some (.opening c e k) → w.answers k = some a →
    Answered w e a r → Returns w e (.run t m) .opener r
  /-- Its opener found it gone, and has closed the session that it was given. -/
  | discarded {t m c s} : w.tasks t = some (.closing e s (.discarded c)) →
    Returns w e (.run t m) .opener (.error (w.entries e).openFailure)
  | waiter {t m c} : w.tasks t = some (.joining c e) → w.status e ≠ .connecting →
    Returns w e (.run t m) .waiter (w.verdict e)

namespace World

variable {w : World} {e : EntryId} {t : TaskId} {c : Caller} {k : CallId}

theorem apply_joining {m : Meanwhile} (ht : w.tasks t = some (.joining c e))
    (settled : w.status e ≠ .connecting) :
    w.apply (.run t m) = w.proceed t (c.after (w.verdict e)) (c.sent (w.verdict e)) := by
  simp [apply, step, ht, isReady, advance, settled, joined, conclude_eq]

/-- What an opener returns at once stands in its bridge, and it goes on with that. -/
theorem apply_answered {a : Answer} {r : Except Error EntryId}
    (ht : w.tasks t = some (.opening c e k)) (ha : w.answers k = some a) (told : Answered w e a r)
    (m : Meanwhile) : (w.apply (.run t m)).tasks t = some (c.after r) ∧
      (w.apply (.run t m)).verdict e = r ∧ (w.apply (.run t m)).Decided e := by
  rw [apply_opening ht ha]
  cases told with
  | failed x =>
    rw [settleOpen_failure, rollBack_eq]
    simp [proceed, put, verdict, status, Decided, Entry.openFailure]
  | connected here =>
    rw [settleOpen_of_listed here]
    simp [proceed, put, spawn, attach, setEntry, verdict, status, Decided]

/-- An opener that found its bridge gone says so once the session is closed. -/
theorem Closes.apply_discarded {s : SessionId} (closes : w.Closes e s (.discarded c))
    (ht : w.tasks t = some (.closing e s (.discarded c))) (m : Meanwhile) :
    (w.apply (.run t m)).tasks t = some (c.after (.error (w.entries e).openFailure)) ∧
      (w.apply (.run t m)).verdict e = .error (w.entries e).openFailure ∧
      (w.apply (.run t m)).Decided e := by
  rw [apply_closing ht, sessionEvent_eq]
  refine ⟨put_same _ _ _, verdict_of_disconnected closes.past, Or.inr ?_⟩
  show (w.entries e).failure ≠ none
  simp [closes.noted rfl]

end World

namespace Returns

variable {w : World} {e : EntryId} {x : Event} {role : Role} {r : Except Error EntryId}

/-- The caller goes on with what it is told. -/
theorem told (h : Returns w e x role r) (closing : w.Closing) :
    ∃ t m, ∃ c : Caller, x = .run t m ∧ (w.apply x).tasks t = some (c.after r) := by
  cases h with
  | @opener t m c k a r ht ha told => exact ⟨t, m, c, rfl, (World.apply_answered ht ha told m).1⟩
  | @discarded t m c s ht =>
    exact ⟨t, m, c, rfl, ((closing t e s _ ht).apply_discarded ht m).1⟩
  | @waiter t m c ht settled =>
    exact ⟨t, m, c, rfl, by simp [World.apply_joining ht settled, World.proceed, put]⟩

/-- Callers are told what stands in the bridge when they return, and its opener notes it there. -/
theorem verdict (h : Returns w e x role r) (sound : w.Sound) (closing : w.Closing) :
    (w.apply x).verdict e = r ∧ (w.apply x).status e ≠ .connecting ∧
      (role = .opener → (w.apply x).Decided e) := by
  have sound := sound.apply x
  cases h with
  | @opener t m c k a r ht ha told =>
    obtain ⟨-, reported, decided⟩ := World.apply_answered ht ha told m
    exact ⟨reported, sound.not_connecting_of_decided decided, fun _ => decided⟩
  | @discarded t m c s ht =>
    obtain ⟨-, reported, decided⟩ := (closing t e s _ ht).apply_discarded ht m
    exact ⟨reported, sound.not_connecting_of_decided decided, fun _ => decided⟩
  | waiter ht settled =>
    rw [World.apply_joining ht settled]
    refine ⟨rfl, settled, ?_⟩
    intro opener
    cases opener

theorem made (h : Returns w e x role r) (sound : w.Sound) (closing : w.Closing)
    (awaits : w.AwaitsMade) : e < w.made := by
  cases h with
  | @opener t m c k a r ht ha => exact sound.manned.made ⟨c, ht⟩
  | @discarded t m c s ht => exact (closing t e s _ ht).made
  | waiter ht settled => exact awaits _ _ e ht rfl

end Returns

namespace World

/-- Something definite is said of a bridge that is not connecting any more. -/
theorem verdict_cases (w : World) (e : EntryId) : w.verdict e = .ok e ∨
    ∃ reason, w.verdict e = .error (.openFailure (w.entries e).identity reason) := by
  by_cases h : w.status e = .connected
  · exact Or.inl (verdict_of_connected h)
  · exact Or.inr ⟨(w.entries e).failure.getD "session closed",
      by simp [verdict, h, Entry.openFailure]⟩

/-- In every run, callers that opened a bridge or waited for it are told the bridge, or a failure of
its identity with a reason. Two of them are told the same exactly if the bridge is decided when both
return, or when neither does. It is decided when its opener returns, so a waiter is told something
else than the opener exactly if it returns while the bridge is disconnected without a failure:
before its opener notes one, or after a bridge that had connected was ended. -/
theorem answers_agree_iff (xs ys : List Event) (x y : Event) (e : EntryId) {first second : Role}
    {r r' : Except Error EntryId} (told : Returns (World.run {} xs) e x first r)
    (toldLater : Returns (World.run {} (xs ++ x :: ys)) e y second r') :
    (∃ i, (r = .ok e ∨ ∃ reason, r = .error (.openFailure i reason)) ∧
      (r' = .ok e ∨ ∃ reason, r' = .error (.openFailure i reason))) ∧
    (first = .opener → (World.run {} (xs ++ [x])).Decided e) ∧
    (second = .opener → (World.run {} (xs ++ x :: ys ++ [y])).Decided e) ∧
    (r = r' ↔ ((World.run {} (xs ++ [x])).Decided e ↔
      (World.run {} (xs ++ x :: ys ++ [y])).Decided e)) := by
  have closing := (regular_run xs).closing
  have made := told.made (sound_run xs) closing (awaitsMade_run xs)
  have later : World.run {} (xs ++ x :: ys ++ [y]) =
      (World.run {} (xs ++ [x])).run (ys ++ [y]) := by
    rw [← run_append]
    simp
  obtain ⟨verdict, settled, opened⟩ := told.verdict (sound_run xs) closing
  obtain ⟨verdictLater, -, openedLater⟩ := toldLater.verdict (sound_run _) (regular_run _).closing
  have now : (World.run {} xs).apply x = World.run {} (xs ++ [x]) := (run_append {} xs [x]).symm
  have afterwards : (World.run {} (xs ++ x :: ys)).apply y = World.run {} (xs ++ x :: ys ++ [y]) :=
    (run_append {} _ [y]).symm
  rw [now] at verdict settled opened
  rw [afterwards] at verdictLater openedLater
  have sound := sound_run (xs ++ [x])
  have made : e < (World.run {} (xs ++ [x])).made :=
    now ▸ Nat.lt_of_lt_of_le made ((apply_move _ x).made_le (sound_run xs))
  have identity := (sound.run_grows made (ys ++ [y])).2.identity
  refine ⟨⟨((World.run {} (xs ++ [x])).entries e).identity, ?_, ?_⟩, opened, openedLater, ?_⟩
  · rw [← verdict]
    exact verdict_cases _ e
  · rw [← verdictLater, ← identity, ← later]
    exact verdict_cases _ e
  · rw [← verdict, ← verdictLater, later]
    exact sound.verdict_eq_iff made settled (ys ++ [y])

def abandoned : List Event :=
  [.start (.ensureOpen ⟨"a"⟩ (some sampleRequest)), .run 0 {}, .start (.ensureOpen ⟨"a"⟩ none),
    .run 1 {}, .start (.remove ⟨"a"⟩), .run 2 {}]

/-- The waiter is told that the session was closed, and the opener that the bridge was removed. -/
theorem answers_agree_iff_abandoned :
    Returns (World.run {} abandoned) 0 (.run 1 {}) .waiter
        (.error (.openFailure ⟨"a"⟩ "session closed")) ∧
      Returns (World.run {} (abandoned ++ .run 1 {} :: [.answer 0 (.session "s" true), .run 0 {}]))
        0 (.run 0 {}) .opener (.error (.openFailure ⟨"a"⟩ "removed while connecting")) ∧
      ¬ (World.run {} (abandoned ++ [.run 1 {}])).Decided 0 := by
  have waiter : Returns (World.run {} abandoned) 0 (.run 1 {}) .waiter
      (.error (.openFailure ⟨"a"⟩ "session closed")) := .waiter (c := .plain) rfl (by decide)
  have opener : Returns
      (World.run {} (abandoned ++ .run 1 {} :: [.answer 0 (.session "s" true), .run 0 {}])) 0
      (.run 0 {}) .opener (.error (.openFailure ⟨"a"⟩ "removed while connecting")) :=
    .discarded (c := .plain) (s := 0) rfl
  obtain ⟨-, -, decided, agree⟩ := answers_agree_iff abandoned
    [.answer 0 (.session "s" true), .run 0 {}] (.run 1 {}) (.run 0 {}) 0 waiter opener
  refine ⟨waiter, opener, ?_⟩
  intro before
  have same := agree.mpr ⟨fun _ => decided rfl, fun _ => before⟩
  simp at same

end World
end BridgeKeeper.Bridge
