import BridgeKeeper.Proofs.Ssh.Service
import BridgeKeeper.Ssh.Transport
import Mathlib.Data.List.Basic

/-!
# Under which port a forward is cancelled

A session remembers a forward under the port that the connection named when it granted it, and so does
an owner that cancels one which nobody waits for any more. Where a forward asks for port zero, that is
the port that the server chose. Where it asks for a port, the connection names zero.
-/
namespace BridgeKeeper.Ssh

/-- The connection names the port at which the server listens exactly where it was asked for any. -/
theorem Server.heardPort_eq_grantedPort_iff (s : Server) (port : Nat) :
    s.heardPort port = s.grantedPort port ↔ port = 0 := by
  by_cases any : port = 0
  · simp [heardPort, grantedPort, any]
  · simp [heardPort, grantedPort, any, Ne.symm any]

/-! ## Closing a session -/

namespace Session

variable {s s' : Session} {address : String} {port : Nat}

def sends (s : Session) : Event → List Command
  | .advance k =>
    match s.closings k, s.holder, s.forward with
    | .started, none, some (.granted address port) => [.cancel address port]
    | .cleared, _, _ => [.disconnect]
    | _, _, _ => []
  | .close | .owner _ => []

def sent (s : Session) : List Event → List Command
  | [] => []
  | x :: xs => s.sends x ++ (s.apply x).sent xs

theorem owner_advance (s : Session) (k : Nat) :
    (s.apply (.advance k)).owner = (s.sends (.advance k)).foldl Owner.request s.owner := by
  rw [apply, advance, sends]
  cases closing : s.closings k with
  | started =>
    dsimp only
    rw [takeDown]
    cases held : s.holder with
    | some j => rfl
    | none =>
      cases forward : s.forward with
      | none => rfl
      | some a => cases a <;> rfl
  | cancelling t =>
    dsimp only
    split <;> rfl
  | cleared => rfl
  | leaving t =>
    dsimp only
    split <;> rfl
  | returned => rfl

def cancels (cs : List Command) : List (String × Nat) :=
  cs.filterMap fun
    | .cancel address port => some (address, port)
    | _ => none

theorem cancels_append (cs ds : List Command) : cancels (cs ++ ds) = cancels cs ++ cancels ds :=
  List.filterMap_append

/-- A session whose forward stands until one call takes it down, and sends the cancel for it. -/
inductive Holds (address : String) (port : Nat) (s : Session) (cs : List Command) : Prop
  | stands : s.forward = some (.granted address port) → s.holder = none →
    (∀ k, s.closings k = if k < s.called then .started else .returned) → cancels cs = [] →
    Holds address port s cs
  | down : s.forward = none → cancels cs = [(address, port)] → Holds address port s cs

theorem Holds.step {cs : List Command} (h : Holds address port s cs) (x : Event) :
    Holds address port (s.apply x) (cs ++ s.sends x) := by
  cases h with
  | stands forward holder closings none =>
    cases x with
    | close =>
      refine .stands forward holder (fun k => ?_) (by rw [cancels_append, none]; rfl)
      show (if k = s.called then Closing.started else s.closings k) =
        if k < s.called + 1 then .started else .returned
      rw [closings]
      by_cases new : k = s.called
      · rw [if_pos new, if_pos (new ▸ Nat.lt_succ_self _)]
      · have same : k < s.called + 1 ↔ k < s.called := by omega
        rw [if_neg new]
        simp only [same]
    | owner x => exact .stands forward holder closings (by rw [cancels_append, none]; rfl)
    | advance k =>
      have closing := closings k
      split at closing
      · refine .down ?_ ?_
        · simp [apply, advance, closing, takeDown, holder, forward, setClosing]
        · rw [cancels_append, none]
          simp [sends, closing, holder, forward, cancels]
      · have still : s.apply (.advance k) = s := by simp [apply, advance, closing]
        have silent : s.sends (.advance k) = [] := by simp [sends, closing]
        rw [still, silent, List.append_nil]
        exact .stands forward holder closings none
  | down forward once =>
    have silent : cancels (s.sends x) = [] := by
      unfold sends
      repeat' split
      · next granted => cases forward.symm.trans granted
      all_goals rfl
    refine .down ?_ (by rw [cancels_append, once, silent]; rfl)
    cases x with
    | close => exact forward
    | owner x => exact forward
    | advance k =>
      rw [apply, advance]
      repeat' split
      · unfold takeDown
        split
        · exact forward
        · exact forward
        · next granted => cases forward.symm.trans granted
        · next granted => cases forward.symm.trans granted
      all_goals exact forward

theorem Holds.run {cs : List Command} (h : Holds address port s cs) (xs : List Event) :
    Holds address port (s.run xs) (cs ++ s.sent xs) := by
  induction xs generalizing s cs with
  | nil =>
    rw [sent, List.append_nil]
    exact h
  | cons x xs ih =>
    rw [sent, ← List.append_assoc]
    exact ih (h.step x)

/-- A session whose forward is cancelled once, by the first call that closes it and goes on, and under
which port. -/
structure CancelsOnce (s : Session) (address : String) (port : Nat) : Prop where
  /-- What the calls send is what they request of the owner. -/
  requested : ∀ xs k, ((s.run xs).apply (.advance k)).owner =
    ((s.run xs).sends (.advance k)).foldl Owner.request (s.run xs).owner
  most : ∀ xs, cancels (s.sent xs) <+: [(address, port)]
  first : ∀ xs k, k < (s.run xs).called → (s.run xs).closings k ≠ .started →
    cancels (s.sent xs) = [(address, port)]

theorem cancelsOnce (o : Owner) (address : String) (port : Nat) :
    CancelsOnce { owner := o, forward := some (.granted address port) } address port := by
  have start : Holds address port { owner := o, forward := some (.granted address port) } [] :=
    .stands rfl rfl (fun k => (if_neg (Nat.not_lt_zero k)).symm) rfl
  have holds (xs : List Event) : Holds address port
      (run { owner := o, forward := some (.granted address port) } xs)
      (sent { owner := o, forward := some (.granted address port) } xs) := start.run xs
  refine ⟨fun xs k => owner_advance _ k, fun xs => ?_, fun xs k called started => ?_⟩
  · cases holds xs with
    | stands forward holder closings none =>
      rw [none]
      exact List.nil_prefix
    | down forward once => exact ⟨[], by rw [List.append_nil, once]⟩
  · cases holds xs with
    | stands forward holder closings none =>
      rw [closings, if_pos called] at started
      exact absurd rfl started
    | down forward once => exact once

end Session

/-! ## Forwards that nobody owns -/

namespace Owner

/-- The forward that was asked for, if one is granted. -/
def askedFor? : Job × Except String Grant → Option (String × Nat)
  | (⟨_, .forward address port⟩, .ok (.listening _)) => some (address, port)
  | _ => none

/-- What was asked for by callers who were gone when it was granted. -/
def deserted (o : Owner) : List Event → List (String × Nat)
  | [] => []
  | x :: xs =>
    ((o.hears x).filter fun a => a.1.ticket ∈ o.gone).filterMap askedFor? ++ (o.apply x).deserted xs

/-- Whether forwards are granted under the ports that a server tells. -/
def Names (s : Server) (gs : List (Job × Except String Grant)) : Prop :=
  ∀ t address port heard, (⟨t, .forward address port⟩, .ok (.listening heard)) ∈ gs →
    heard = s.heardPort port

theorem Names.granted?_eq {s : Server} {gs : List (Job × Except String Grant)} (h : Names s gs)
    {a : Job × Except String Grant} (given : a ∈ gs) :
    granted? a = (askedFor? a).map fun f => (f.1, s.heardPort f.2) := by
  obtain ⟨⟨t, c⟩, r⟩ := a
  cases c with
  | forward address port =>
    cases r with
    | error e => rfl
    | ok g =>
      cases g with
      | listening heard =>
        cases h t address port heard given
        rfl
      | channel => rfl
      | cancelled => rfl
  | channel host port => rfl
  | cancel address port => rfl
  | disconnect => rfl

/-- What nobody waits for any more is cancelled under the port that was heard. -/
theorem orphaned_eq {s : Server} {o : Owner} {xs : List Event} (names : Names s (o.given xs)) :
    o.orphaned xs = (o.deserted xs).map fun f => (f.1, s.heardPort f.2) := by
  induction xs generalizing o with
  | nil => rfl
  | cons x xs ih =>
    have now : o.orphans x = (((o.hears x).filter fun a => a.1.ticket ∈ o.gone).filterMap askedFor?).map
        fun f => (f.1, s.heardPort f.2) := by
      rw [orphans, List.map_filterMap]
      refine List.filterMap_congr fun a there => ?_
      exact names.granted?_eq (List.mem_append_left _ (List.mem_filter.mp there).1)
    have later : Names s ((o.apply x).given xs) := fun t address port heard given =>
      names t address port heard (List.mem_append_right _ given)
    rw [orphaned, deserted, List.map_append, now, ih later]

theorem revoked_names {s : Server} {xs : List Event} (names : Names s (given {} xs)) :
    (run {} xs).revoked = (deserted {} xs).map fun f => (f.1, s.heardPort f.2) := by
  rw [revoked_run, orphaned_eq names]
  rfl

/-- An owner that has taken its first command. -/
theorem take_first {c : Command} (other : c ≠ .disconnect) :
    (run {} [.request c, .take]).stage = .executing ⟨0, c⟩ ∧
      (run {} [.request c, .take]).placed = [] := by
  cases c with
  | disconnect => exact absurd rfl other
  | _ => exact ⟨rfl, rfl⟩

def afterFirst (c : Command) (r : Except String Grant) : Owner :=
  { requests := 1, queued := [⟨0, c⟩], executed := [⟨0, c⟩], answers := [(0, r.mapError c.failure)] }

/-- An owner that goes on with the answer to its first command. Its caller is still there. -/
theorem result_first {c : Command} (other : c ≠ .disconnect) (r : Except String Grant) :
    run {} [.request c, .take, .result r] = afterFirst c r := by
  cases c with
  | disconnect => exact absurd rfl other
  | channel host port => rfl
  | cancel address port => rfl
  | forward address port =>
    cases r with
    | error e => rfl
    | ok g => cases g <;> rfl

end Owner

/-! ## Opening a session -/

namespace Machine

variable {m m' : Machine} {k : LinkId}

theorem setLink_setLink (m : Machine) (k : LinkId) (x y : Link) :
    (m.setLink k x).setLink k y = m.setLink k y := by
  simp only [setLink, put_put]

theorem links_setLink (m : Machine) (k : LinkId) (x : Link) : (m.setLink k x).links k = x :=
  put_same _ _ _

theorem see_setLink (m : Machine) (k : LinkId) (x : Link) (y : Sight) :
    (m.setLink k x).see y = (m.see y).setLink k x := rfl

theorem onOwner_eq (m : Machine) (k : LinkId) (x : Owner.Event) : m.onOwner k x = m.setLink k
    { m.links k with session := { m.session k with owner := (m.owner k).apply x } } := rfl

@[simp] theorem links_onOwner (m : Machine) (k : LinkId) (x : Owner.Event) :
    (m.onOwner k x).links k =
      { m.links k with session := { m.session k with owner := (m.owner k).apply x } } := by
  simp only [onOwner, setSession, setLink, put_same]
  rfl

@[simp] theorem owner_onOwner (m : Machine) (k : LinkId) (x : Owner.Event) :
    (m.onOwner k x).owner k = (m.owner k).apply x := by
  rw [owner, links_onOwner]

theorem server_onOwner (m : Machine) (k : LinkId) (x : Owner.Event) : (m.onOwner k x).server = m.server :=
  rfl

theorem links_cut (m : Machine) (k : LinkId) :
    (m.cut k).links k = { (m.cut k).links k with session := m.session k } := by
  rw [cut]
  split
  · simp only [see, links_setLink, session]
  · rfl

/-- What is carried out on a connection is not yet told to its owner. -/
@[simp] theorem owner_perform (m : Machine) (k : LinkId) (c : Command) :
    (m.perform k c).2.owner k = m.owner k := by
  unfold perform
  dsimp only
  split
  · cases c with
    | channel host port => rfl
    | disconnect => rfl
    | forward address port =>
      dsimp only
      split
      · rw [owner, links_cut]
        rfl
      · split
        · rfl
        · simp [owner, setLink, put_same]
    | cancel address port =>
      dsimp only
      split
      · rfl
      · simp [owner, setLink, put_same]
  · rfl

/-- An owner that serves and finds no command to take rests. -/
theorem serveOne_rests (serving : ((m.owner k).apply .take).stage = .serving) :
    m.serveOne k = m.onOwner k .take := by
  rw [serveOne]
  dsimp only
  rw [owner_onOwner, serving]

/-- The first command is taken, carried out and answered. -/
theorem serveOne_first {c : Command} (other : c ≠ .disconnect)
    (asked : m.owner k = Owner.run {} [.request c]) :
    m.serveOne k = ((m.onOwner k .take).perform k c).2.onOwner k
        (.result ((m.onOwner k .take).perform k c).1) ∧
      (m.serveOne k).owner k =
        Owner.run {} [.request c, .take, .result ((m.onOwner k .take).perform k c).1] := by
  have taken : (m.onOwner k .take).owner k = Owner.run {} [.request c, .take] := by
    rw [owner_onOwner, asked]
    rfl
  obtain ⟨stage, placed⟩ := Owner.take_first other
  have filled : (m.onOwner k .take).fillPlaces k = m.onOwner k .take := by
    rw [fillPlaces, taken, placed, List.foldl_nil]
  have answered (r : Except String Grant) :
      (((m.onOwner k .take).perform k c).2.onOwner k (.result r)).owner k =
        Owner.run {} [.request c, .take, .result r] := by
    rw [owner_onOwner, owner_perform, taken]
    rfl
  have served : m.serveOne k = ((m.onOwner k .take).perform k c).2.onOwner k
      (.result ((m.onOwner k .take).perform k c).1) := by
    rw [serveOne]
    dsimp only
    rw [taken, stage]
    dsimp only
    rw [filled, answered, Owner.result_first other]
    rfl
  exact ⟨served, by rw [served, answered]⟩

/-- The first request on a connection is answered with what came of it. -/
theorem request_first {c : Command} (fresh : m.owner k = {}) (other : c ≠ .disconnect) :
    m.request k c =
      let (r, m) := ((m.onOwner k (.request c)).onOwner k .take).perform k c
      (r.mapError c.failure, (m.onOwner k (.result r)).onOwner k .take) := by
  have asked : (m.onOwner k (.request c)).owner k = Owner.run {} [.request c] := by
    rw [owner_onOwner, fresh]
    rfl
  obtain ⟨served, answered⟩ := serveOne_first other asked
  rw [Owner.result_first other] at answered
  have rests := serveOne_rests (m := (m.onOwner k (.request c)).serveOne k) (k := k) <| by
    rw [answered]
    rfl
  have told := owner_onOwner ((m.onOwner k (.request c)).serveOne k) k .take
  rw [answered] at told
  rw [request]
  dsimp only
  rw [serve, asked, fresh]
  show (((serveOne _ k).serveOne k).owner k |>.answer? 0 |>.getD _, (serveOne _ k).serveOne k) = _
  rw [rests, told, served]
  rfl

variable {r : Forward.Rule} {user password : String}

/-- How a request for a forward fails: the connection is lost already, it is lost over the request, or
the server rejects it. -/
inductive Forfeits (m : Machine) (k : LinkId) (address : String) (port : Nat) : String → Machine → Prop
  | lost : (m.links k).isUp = false → Forfeits m k address port unreachable m
  | dropped : (m.links k).isUp = true → m.server.dropsForwards = true →
    Forfeits m k address port ended ((m.see (.forward address port)).cut k)
  | rejected : (m.links k).isUp = true → m.server.dropsForwards = false →
    m.server.rejectsForwards = true →
    Forfeits m k address port rejected (m.see (.forward address port))

structure Grants (m : Machine) (k : LinkId) : Prop where
  up : (m.links k).isUp = true
  stays : m.server.dropsForwards = false
  accepts : m.server.rejectsForwards = false

theorem forfeits_or_grants (m : Machine) (k : LinkId) (address : String) (port : Nat) :
    (∃ reason m', Forfeits m k address port reason m') ∨ m.Grants k := by
  cases up : (m.links k).isUp with
  | false => exact .inl ⟨_, _, .lost up⟩
  | true =>
    cases drops : m.server.dropsForwards with
    | true => exact .inl ⟨_, _, .dropped up drops⟩
    | false =>
      cases rejects : m.server.rejectsForwards with
      | true => exact .inl ⟨_, _, .rejected up drops rejects⟩
      | false => exact .inr ⟨up, drops, rejects⟩

def answered (m : Machine) (k : LinkId) (c : Command) (r : Except String Grant) : Link :=
  { m.links k with session := { owner := .afterFirst c r } }

/-- A forward that is the first request on a connection, and fails. -/
theorem request_forward_failed {reason : String} {address : String} {port : Nat}
    (fresh : m.session k = {}) (fails : Forfeits m k address port reason m') :
    m.request k (.forward address port) = (.error (.forwarding reason),
      m'.setLink k (m'.answered k (.forward address port) (.error reason))) := by
  have other : Command.forward address port ≠ .disconnect := nofun
  have owned : m.owner k = {} := congrArg Session.owner fresh
  have here : (m.links k).session = {} := fresh
  rw [request_first owned other]
  cases fails with
  | lost down =>
    have performed : ((m.onOwner k (.request (.forward address port))).onOwner k .take).perform k
        (.forward address port) =
          (.error unreachable, (m.onOwner k (.request (.forward address port))).onOwner k .take) := by
      simp [perform, down]
    rw [performed]
    simp only [onOwner_eq, links_setLink, setLink_setLink, session, owner, here]
    rfl
  | dropped up drops =>
    have performed : ((m.onOwner k (.request (.forward address port))).onOwner k .take).perform k
        (.forward address port) = (.error ended,
          (((m.onOwner k (.request (.forward address port))).onOwner k .take).see
            (.forward address port)).cut k) := by
      simp [perform, up, see, server_onOwner, drops]
    rw [performed]
    simp only [cut, onOwner_eq, see_setLink, links_setLink, setLink_setLink, session, owner, here,
      answered]
    simp only [see, up, if_true, links_setLink, setLink_setLink, here]
    rfl
  | rejected up drops rejects =>
    have performed : ((m.onOwner k (.request (.forward address port))).onOwner k .take).perform k
        (.forward address port) = (.error rejected,
          ((m.onOwner k (.request (.forward address port))).onOwner k .take).see
            (.forward address port)) := by
      simp [perform, up, see, server_onOwner, drops, rejects]
    rw [performed]
    simp only [onOwner_eq, see_setLink, links_setLink, setLink_setLink, session, owner, here]
    rfl

/-- A forward that is the first request on a connection, and is granted. -/
theorem request_forward_granted (fresh : m.session k = {}) (grants : m.Grants k)
    (address : String) (port : Nat) :
    m.request k (.forward address port) = (.ok (.listening (m.server.heardPort port)),
      (m.see (.forward address port)).setLink k { m.links k with
        session := { owner :=
          .afterFirst (.forward address port) (.ok (.listening (m.server.heardPort port))) }
        grants := (m.links k).grants ++ [(address, m.server.grantedPort port)] }) := by
  have other : Command.forward address port ≠ .disconnect := nofun
  have owned : m.owner k = {} := congrArg Session.owner fresh
  have performed : ((m.onOwner k (.request (.forward address port))).onOwner k .take).perform k
      (.forward address port) = (.ok (.listening (m.server.heardPort port)),
        (((m.onOwner k (.request (.forward address port))).onOwner k .take).see
          (.forward address port)).setLink k
            { ((m.onOwner k (.request (.forward address port))).onOwner k .take).links k with
              grants := (m.links k).grants ++ [(address, m.server.grantedPort port)] }) := by
    simp [perform, grants.up, see, server_onOwner, grants.stays, grants.accepts]
  rw [request_first owned other, performed]
  simp only [onOwner_eq, see_setLink, links_setLink, setLink_setLink, session, owner]
  rw [show (m.links k).session = {} from fresh]
  rfl

theorem setUp_granted (fresh : m.session k = {}) (remote : r.isRemote = true) (grants : m.Grants k) :
    m.setUp k r =
      (.ok (.granted forwardAddress (m.server.heardPort r.sourcePort.toNat)),
        (m.see (.forward forwardAddress r.sourcePort.toNat)).setLink k { m.links k with
          session := { owner := (.afterFirst (.forward forwardAddress r.sourcePort.toNat)
            (.ok (.listening (m.server.heardPort r.sourcePort.toNat)))) }
          grants := (m.links k).grants ++
            [(forwardAddress, m.server.grantedPort r.sourcePort.toNat)] }) := by
  rw [setUp, if_pos remote, request_forward_granted fresh grants]

theorem setUp_failed {reason : String} (fresh : m.session k = {}) (remote : r.isRemote = true)
    (fails : Forfeits m k forwardAddress r.sourcePort.toNat reason m') : m.setUp k r =
      (.error (.forwarding reason), m'.setLink k
        (m'.answered k (.forward forwardAddress r.sourcePort.toNat) (.error reason))) := by
  rw [setUp, if_pos remote, request_forward_failed fresh fails]

structure Admits (m : Machine) (user password : String) : Prop where
  sound : m.server.fault? = none
  accepts : m.server.accepts user password = true

/-- A machine with a new connection that is logged in; the connection may be lost already. -/
def logged (m : Machine) (user password : String) (p : Plan) : Machine :=
  let m' := (m.see (.login user password)).addLink p
  if m.server.dropsSessions then m'.cut m.linked else m'

theorem links_logged (m : Machine) (user password : String) (p : Plan) :
    (m.logged user password p).links m.linked =
      { target := p.target, since := m.now, keepaliveMs := p.keepaliveMs
        isUp := !m.server.dropsSessions } := by
  have link : ((m.see (.login user password)).addLink p).links m.linked =
      { target := p.target, since := m.now, keepaliveMs := p.keepaliveMs } := put_same _ _ _
  have up : (((m.see (.login user password)).addLink p).links m.linked).isUp = true := by rw [link]
  rw [logged]
  cases m.server.dropsSessions with
  | false => exact link
  | true =>
    rw [if_pos rfl, cut, if_pos up, link]
    exact links_setLink _ _ _

theorem session_logged (m : Machine) (user password : String) (p : Plan) :
    (m.logged user password p).session m.linked = {} := by
  rw [session, links_logged]

theorem server_logged (m : Machine) (user password : String) (p : Plan) :
    (m.logged user password p).server = m.server := by
  rw [logged]
  split
  · rw [cut]
    split <;> rfl
  · rfl

def loginSights (m : Machine) (user password : String) : List Sight :=
  .login user password :: if m.server.dropsSessions then [.closed] else []

theorem seen_logged (m : Machine) (user password : String) (p : Plan) :
    (m.logged user password p).seen = m.seen ++ m.loginSights user password := by
  have link : ((m.see (.login user password)).addLink p).links m.linked =
      { target := p.target, since := m.now, keepaliveMs := p.keepaliveMs } := put_same _ _ _
  rw [logged, loginSights]
  split
  · rw [cut, link]
    exact List.append_assoc _ _ _
  · rfl

theorem connect_admitted (h : m.Admits user password) (p : Plan) :
    m.connect user password p = (.ok m.linked, m.logged user password p) := by
  have stays : m.server.leavesEarly = false := by
    have accepts := h.accepts
    simp only [Server.accepts, Bool.and_eq_true, Bool.not_eq_true'] at accepts
    exact accepts.1.1.1.1
  have accepts : (m.see (.login user password)).server.accepts user password = true := h.accepts
  rw [connect, h.sound, stays]
  simp only [Bool.false_eq_true, if_false]
  rw [if_pos accepts]
  rfl

/-- Where the server does not take the connection or the login, it sees at most a login and the end. -/
theorem connect_turnedAway (turnedAway : ¬ m.Admits user password) (p : Plan) :
    ∃ e m', m.connect user password p = (.error e, m') ∧
      (m' = m ∨ ∃ sights, m' = { m with seen := m.seen ++ sights ++ [.closed] }) := by
  rw [connect]
  cases fault : m.server.fault? with
  | some e => exact ⟨e, m, rfl, .inl rfl⟩
  | none =>
    have refused : ¬ m.server.accepts user password = true := fun accepts => turnedAway ⟨fault, accepts⟩
    cases early : m.server.leavesEarly with
    | true =>
      refine ⟨_, _, if_neg refused, .inr ⟨[], ?_⟩⟩
      rw [List.append_nil]
      rfl
    | false => exact ⟨_, _, if_neg refused, .inr ⟨[.login user password], rfl⟩⟩

/-- The forward of a remote rule that is set up first on a connection. -/
theorem setUp_remote {a : Active} (remote : r.isRemote = true) (fresh : m.session k = {})
    (granted : m.setUp k r = (.ok a, m')) : (m.links k).isUp = true ∧
      a = .granted forwardAddress (m.server.heardPort r.sourcePort.toNat) ∧
      m'.seen = m.seen ++ [.forward forwardAddress r.sourcePort.toNat] ∧
      (m'.links k).grants =
        (m.links k).grants ++ [(forwardAddress, m.server.grantedPort r.sourcePort.toNat)] ∧
      ∃ o, m'.session k = { owner := o } := by
  rcases m.forfeits_or_grants k forwardAddress r.sourcePort.toNat with ⟨reason, m₁, fails⟩ | grants
  · rw [setUp_failed fresh remote fails] at granted
    cases granted
  · rw [setUp_granted fresh remote grants] at granted
    cases granted
    refine ⟨grants.up, rfl, rfl, ?_, ?_⟩
    · rw [links_setLink]
    · simp only [session, links_setLink]
      exact ⟨_, rfl⟩

/-- A session that is opened with a remote rule. -/
theorem openSession_remote {user password : String} {r : Forward.Rule} {keepaliveMs : Nat}
    (opened : m.openSession user password (some r) keepaliveMs = (.ok k, m'))
    (remote : r.isRemote = true) :
    m'.seen = m.seen ++ [.login user password, .forward forwardAddress r.sourcePort.toNat] ∧
      (m'.links k).grants = [(forwardAddress, m.server.grantedPort r.sourcePort.toNat)] ∧
      ∃ o, m'.session k =
        { owner := o
          forward := some (.granted forwardAddress (m.server.heardPort r.sourcePort.toNat)) } := by
  rw [openSession] at opened
  by_cases admits : m.Admits user password
  · rw [connect_admitted admits] at opened
    dsimp only at opened
    split at opened
    · next a m₂ granted =>
      cases opened
      have link := m.links_logged user password ⟨targetOf? (some r), keepaliveMs⟩
      have login := m.seen_logged user password ⟨targetOf? (some r), keepaliveMs⟩
      obtain ⟨up, rfl, seen, grants, o, session⟩ := setUp_remote remote (m.session_logged _ _ _) granted
      rw [link, Bool.not_eq_true'] at up
      rw [link, server_logged] at grants
      rw [login, loginSights, up, List.append_assoc] at seen
      refine ⟨seen, ?_, o, ?_⟩
      · simpa [setSession, setLink, put_same] using grants
      · simp only [Machine.session, setSession, setLink, put_same]
        rw [← Machine.session, session, server_logged]
    · cases opened
  · obtain ⟨e, m₁, failed, -⟩ := connect_turnedAway admits ⟨targetOf? (some r), keepaliveMs⟩
    rw [failed] at opened
    cases opened

/-- However a session is closed that was opened with a remote rule, the first call that goes on cancels
the forward, and no other call does, under the port that was heard when the server granted it; so does
an owner that cancels what nobody waits for any more. That is the port at which the server listens
exactly where the request left it the choice. Where the request named a port, port zero is cancelled. -/
theorem forward_cancelled_where_granted_iff {user password : String} {r : Forward.Rule}
    {keepaliveMs : Nat} (opened : m.openSession user password (some r) keepaliveMs = (.ok k, m'))
    (remote : r.isRemote = true) :
    m'.seen = m.seen ++ [.login user password, .forward forwardAddress r.sourcePort.toNat] ∧
      (m'.links k).grants = [(forwardAddress, m.server.grantedPort r.sourcePort.toNat)] ∧
      (m'.session k).CancelsOnce forwardAddress (m.server.heardPort r.sourcePort.toNat) ∧
      (∀ xs, Owner.Names m.server (Owner.given {} xs) → (Owner.run {} xs).revoked =
        (Owner.deserted {} xs).map fun f => (f.1, m.server.heardPort f.2)) ∧
      ∀ port, (m.server.heardPort port = m.server.grantedPort port ↔ port = 0) ∧
        (port ≠ 0 → m.server.heardPort port = 0) := by
  obtain ⟨seen, grants, o, session⟩ := openSession_remote opened remote
  refine ⟨seen, grants, ?_, fun xs names => Owner.revoked_names names, fun port => ⟨?_, ?_⟩⟩
  · rw [session]
    exact Session.cancelsOnce _ _ _
  · exact m.server.heardPort_eq_grantedPort_iff port
  · exact fun specific => if_neg specific

def lone : Machine :=
  { server := { address := "127.0.0.1:22", user := "alice", password := "secret" } }

def web : Forward.Rule :=
  { nickname := "web", isRemote := true, sourcePort := 8080, destinationHost := "localhost"
    destinationPort := 80 }

def webbed : Machine := (lone.openSession "alice" "secret" (some web) 0).2

/-- The caller of a forward goes away before it is granted. -/
def orphaning : List Owner.Event :=
  [.request (.forward "localhost" 8080), .forget 0, .take, .result (.ok (.listening 0))]

/-- The server listens at port 8080. What is cancelled when the session is closed is port zero, and so
is what the owner cancels whose caller went away. -/
theorem forward_cancelled_where_granted_iff_specific :
    (webbed.links 0).grants = [("localhost", 8080)] ∧
      Session.cancels ((webbed.session 0).sent [.close, .advance 0]) = [("localhost", 0)] ∧
      (webbed.closeSession 0).seen = [.login "alice" "secret", .forward "localhost" 8080,
        .cancel "localhost" 0, .closed] ∧
      Owner.deserted {} orphaning = [("localhost", 8080)] ∧
      (Owner.run {} orphaning).revoked = [("localhost", 0)] := by
  have opened : lone.openSession "alice" "secret" (some web) 0 = (.ok 0, webbed) := Prod.ext rfl rfl
  have names : Owner.Names lone.server (Owner.given {} orphaning) := by
    intro t address port heard there
    cases there with
    | head => rfl
    | tail _ there => cases there
  obtain ⟨-, grants, cancels, revoked, -⟩ := forward_cancelled_where_granted_iff opened rfl
  exact ⟨grants, cancels.first _ 0 (by decide) (by decide), by decide, by decide, revoked orphaning names⟩

end Machine
end BridgeKeeper.Ssh
