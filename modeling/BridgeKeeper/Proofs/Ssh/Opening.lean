import BridgeKeeper.Proofs.Ssh.Forwards
import BridgeKeeper.Proofs.Text.Numeral
import Mathlib.Data.List.TakeDrop

/-!
# Opening a session is all or nothing

A session is opened in three steps: the connection is made, the login is sent on it, and the forward is
set up that the session is opened with. Whichever step fails, what the steps before it have made is taken
back. After the last step the owner of the connection is at work already, so its connection is ended by
a request to the owner, which also stops what listeners there are.
-/
namespace BridgeKeeper.Ssh

/-! ## The address of a local forward -/

theorem BindAddress.splitPort_append {host port : List Char} (plain : ∀ c ∈ port, c ≠ ':') :
    splitPort (host ++ ':' :: port) = some (host, port) := by
  have reversed : (host ++ ':' :: port).reverse = port.reverse ++ ':' :: host.reverse := by simp
  have others : ∀ c ∈ port.reverse, (c != ':') = true := by
    intro c there
    simpa using plain c (List.mem_reverse.mp there)
  rw [splitPort, reversed, List.span_eq_takeWhile_dropWhile, List.takeWhile_append_of_pos others,
    List.dropWhile_append_of_pos others]
  simp

/-- Every port of 127.0.0.1 can be listened at by its address. -/
theorem BindAddress.parse_loopback (n : UInt16) :
    parse (Machine.originator ++ ":" ++ Text.numeral n.toNat).toList = .ok ⟨.loopback, n⟩ := by
  have chars : (Machine.originator ++ ":" ++ Text.numeral n.toNat).toList =
      Machine.originator.toList ++ ':' :: Text.decimal n.toNat := by
    simp [Text.numeral]
  have plain : ∀ c ∈ Text.decimal n.toNat, c ≠ ':' := by
    rintro c there rfl
    cases Text.isDigit_of_mem_decimal there
  have address : hostAddress? Machine.originator.toList (Text.decimal n.toNat) = some .loopback := by
    show Address.ofHost? Machine.originator.toList = some .loopback
    decide +kernel
  have sound : Machine.originator.toList.contains '\x00' = false := by decide +kernel
  rw [parse, chars, splitPort_append plain]
  simp only [Text.word16?_decimal, sound, address]
  rfl

namespace Machine

variable {m m' m'' : Machine} {k : LinkId}

/-! ## Ending a connection -/

/-- What is done on one connection leaves the others alone, and every listener that goes on. -/
structure Spares (k : LinkId) (m m' : Machine) : Prop where
  linked : m'.linked = m.linked
  listened : m'.listened = m.listened
  others : ∀ j, j ≠ k → m'.links j = m.links j
  listeners : ∀ l, (m'.listeners l).running = true → m'.listeners l = m.listeners l

theorem spares_refl (k : LinkId) (m : Machine) : Spares k m m :=
  ⟨rfl, rfl, fun _ _ => rfl, fun _ _ => rfl⟩

theorem Spares.trans (h : Spares k m m') (h' : Spares k m' m'') : Spares k m m'' where
  linked := h'.linked.trans h.linked
  listened := h'.listened.trans h.listened
  others j other := (h'.others j other).trans (h.others j other)
  listeners l running := by
    have same := h'.listeners l running
    rw [same] at running ⊢
    exact h.listeners l running

theorem spares_setLink (m : Machine) (k : LinkId) (x : Link) : Spares k m (m.setLink k x) where
  linked := rfl
  listened := rfl
  others _ other := put_other _ _ other
  listeners _ _ := rfl

theorem spares_onOwner (m : Machine) (k : LinkId) (x : Owner.Event) : Spares k m (m.onOwner k x) :=
  spares_setLink m k _

theorem spares_see (m : Machine) (k : LinkId) (x : Sight) : Spares k m (m.see x) :=
  ⟨rfl, rfl, fun _ _ => rfl, fun _ _ => rfl⟩

/-- Listeners of a connection were stopped. All that its owner notices is that less can send commands. -/
structure Stops (k : LinkId) (m m' : Machine) : Prop extends Spares k m m' where
  link : ∃ n, m'.links k =
    { m.links k with session := { m.session k with owner := { m.owner k with controllers := n } } }
  seen : m'.seen = m.seen
  belongs : ∀ l, (m'.listeners l).link = (m.listeners l).link

theorem Stops.refl (k : LinkId) (m : Machine) : Stops k m m :=
  ⟨spares_refl k m, ⟨_, rfl⟩, rfl, fun _ => rfl⟩

theorem Stops.trans (h : Stops k m m') (h' : Stops k m' m'') : Stops k m m'' := by
  obtain ⟨a, link⟩ := h.link
  obtain ⟨b, link'⟩ := h'.link
  refine ⟨h.toSpares.trans h'.toSpares, ⟨b, ?_⟩, h'.seen.trans h.seen,
    fun l => (h'.belongs l).trans (h.belongs l)⟩
  rw [link']
  simp only [session, owner, link]

theorem stops_stopListener {l : ListenerId} (own : (m.listeners l).link = k) :
    Stops k m (m.stopListener l) := by
  rw [stopListener]
  split
  · rw [own]
    refine ⟨⟨rfl, rfl, fun j other => put_other _ _ other, fun i running => ?_⟩,
      ⟨_, links_onOwner _ _ _⟩, rfl, fun i => ?_⟩
    · by_cases same : i = l
      · subst i
        simp [onOwner, setSession, setLink, put_same] at running
      · exact put_other _ _ same
    · by_cases same : i = l
      · subst i
        simp [onOwner, setSession, setLink, put_same, own]
      · exact congrArg Listener.link (put_other _ _ same)
  · exact .refl k m

theorem stops_stopListenersOf (m : Machine) (k : LinkId) : Stops k m (m.stopListenersOf k) := by
  have all (ls : List ListenerId) (m : Machine) (own : ∀ l ∈ ls, (m.listeners l).link = k) :
      Stops k m (ls.foldl stopListener m) := by
    induction ls generalizing m with
    | nil => exact .refl k m
    | cons l ls ih =>
      have first := stops_stopListener (own l List.mem_cons_self)
      refine first.trans (ih _ fun j there => ?_)
      rw [first.belongs]
      exact own j (List.mem_cons_of_mem l there)
  exact all _ m fun l there => by simpa using (List.mem_filter.mp there).2

/-- A connection without grants is ended, if the server did not end it before. -/
theorem cut_ends (none : (m.links k).grants = []) : Spares k m (m.cut k) ∧
    (m.cut k).links k = { m.links k with isUp := false } ∧
      (m.cut k).seen = m.seen ++ if (m.links k).isUp then [.closed] else [] := by
  rw [cut]
  split <;> rename_i up
  · refine ⟨(spares_setLink m k _).trans (spares_see _ k .closed), ?_, rfl⟩
    rw [← none]
    exact links_setLink _ _ _
  · have down : (m.links k).isUp = false := by simpa using up
    refine ⟨spares_refl k m, ?_, (List.append_nil _).symm⟩
    rw [← down]

/-- The server has seen the end of a connection, and nothing stands there any more. -/
structure Ends (k : LinkId) (m m' : Machine) : Prop extends Spares k m m' where
  down : (m'.links k).isUp = false
  grants : (m'.links k).grants = []
  past : (m'.owner k).stage = .over
  seen : m'.seen = m.seen ++ if (m.links k).isUp then [.closed] else []

/-- An owner that takes the request to disconnect leaves. -/
theorem serveOne_ends (none : (m.links k).grants = [])
    (leaves : ((m.owner k).apply .take).stage = .leaving) : Ends k m (m.serveOne k) := by
  have taken : ((m.onOwner k .take).owner k).stage = .leaving := by rw [owner_onOwner, leaves]
  rw [serveOne]
  dsimp only
  rw [taken]
  dsimp only
  have stops := stops_stopListenersOf ((m.onOwner k .take).onOwner k .notify) k
  have before := ((spares_onOwner m k .take).trans (spares_onOwner _ k .notify)).trans stops.toSpares
  obtain ⟨n, link⟩ := stops.link
  have notified : (((m.onOwner k .take).onOwner k .notify).owner k).stage = .closing := by
    rw [owner_onOwner]
    simp only [Owner.apply, Owner.notify, taken, if_true]
  have kept : (((m.onOwner k .take).onOwner k .notify).links k).isUp = (m.links k).isUp := by simp
  have still : (((m.onOwner k .take).onOwner k .notify).links k).grants = [] := by simp [none]
  have told : ((m.onOwner k .take).onOwner k .notify).seen = m.seen := rfl
  generalize (m.onOwner k .take).onOwner k .notify = m₁ at stops before link notified kept still told ⊢
  generalize m₁.stopListenersOf k = m' at stops before link ⊢
  have closing : (m'.owner k).stage = .closing := by rw [owner, link, ← notified]
  obtain ⟨spares, gone, seen⟩ := cut_ends (m := m') (k := k) (by rw [link, still])
  refine ⟨(before.trans spares).trans (spares_onOwner _ k .finish), ?_, ?_, ?_, ?_⟩
  · simp [gone]
  · simp [gone, link, still]
  · have finished : (m'.cut k).owner k = m'.owner k := by rw [owner, gone, owner]
    rw [owner_onOwner, finished]
    simp only [Owner.apply, Owner.finish, closing, if_true]
  · show (m'.cut k).seen = _
    rw [seen, stops.seen, told, link, kept]

/-- A connection whose owner has nothing to do is ended at once. -/
theorem disconnect_ends (none : (m.links k).grants = []) (serving : (m.owner k).stage = .serving)
    (queue : (m.owner k).queue = []) (placed : (m.owner k).placed = []) (waiting : (m.owner k).waiting = []) :
    Ends k m (m.disconnect k) := by
  have asked : (m.onOwner k (.request .disconnect)).owner k = { m.owner k with
      requests := (m.owner k).requests + 1
      queue := [⟨(m.owner k).requests, .disconnect⟩]
      queued := (m.owner k).queued ++ [⟨(m.owner k).requests, .disconnect⟩] } := by
    rw [owner_onOwner]
    simp [Owner.apply, Owner.request, Owner.isOpen, Owner.enqueue, serving, queue, placed, Owner.capacity]
  have twice : m.disconnect k = ((m.onOwner k (.request .disconnect)).serveOne k).serveOne k := by
    rw [disconnect, serve, asked]
    simp only [placed, waiting]
    rfl
  have left := serveOne_ends (m := m.onOwner k (.request .disconnect)) (k := k) (by simp [none]) <| by
    rw [asked]
    simp [Owner.apply, Owner.take, serving, Owner.leave, Owner.keepPlace]
  have idle : (((m.onOwner k (.request .disconnect)).serveOne k).owner k).apply .take =
      ((m.onOwner k (.request .disconnect)).serveOne k).owner k := by
    simp only [Owner.apply, Owner.take, left.past]
  have rests : ((m.onOwner k (.request .disconnect)).serveOne k).serveOne k =
      ((m.onOwner k (.request .disconnect)).serveOne k).onOwner k .take := by
    rw [serveOne, owner_onOwner, idle, left.past]
  rw [twice, rests]
  have spares := ((spares_onOwner m k _).trans left.toSpares).trans (spares_onOwner _ k .take)
  refine ⟨spares, ?_, ?_, ?_, ?_⟩
  · simp [left.down]
  · simp [left.grants]
  · rw [owner_onOwner, idle, left.past]
  · have seen := left.seen
    rwa [links_onOwner] at seen

/-! ## Setting up the first forward of a connection -/

variable {r : Forward.Rule}

/-- The port at which a local rule listens; port zero leaves the choice to the machine. -/
def portOf (m : Machine) (r : Forward.Rule) : Nat :=
  if r.sourcePort = 0 then m.freshPort else r.sourcePort.toNat

def listenerOf (m : Machine) (k : LinkId) (r : Forward.Rule) : Listener :=
  { link := k, address := .loopback, port := m.portOf r, host := r.destinationHost
    hostPort := r.destinationPort }

theorem listen_rule (m : Machine) (k : LinkId) (r : Forward.Rule) :
    let address := originator ++ ":" ++ Text.numeral r.sourcePort.toNat
    m.listen k address r.destinationHost r.destinationPort =
      match m.barred r.sourcePort with
      | some f => .error (f.error address)
      | none =>
        if m.inUse .loopback (m.portOf r) then .error (BindFault.inUse.error address)
        else .ok ({ m with
          listeners := put m.listeners m.listened (m.listenerOf k r)
          listened := m.listened + 1 }.onOwner k .share) := by
  intro address
  rw [listen, BindAddress.parse_loopback]
  rfl

/-- Whether the forward of a rule comes to be: the server grants it, or the system lets the machine
listen at the port, where nobody else does. -/
def Forwards (m : Machine) (r : Forward.Rule) : Prop :=
  if r.isRemote then m.server.grantsForwards = true
  else m.barred r.sourcePort = none ∧ m.inUse .loopback (m.portOf r) = false

theorem setUp_listens (k : LinkId) (beside : r.isRemote = false) (can : m.Forwards r) :
    m.setUp k r = (.ok (.listener m.listened),
      { m with
        listeners := put m.listeners m.listened (m.listenerOf k r)
        listened := m.listened + 1 }.onOwner k .share) := by
  rw [Forwards, beside] at can
  have listens := m.listen_rule k r
  simp only [can.1, can.2] at listens
  simp [setUp, beside, listens]

theorem setUp_unbound (k : LinkId) (beside : r.isRemote = false) (cannot : ¬ m.Forwards r) :
    ∃ e, m.setUp k r = (.error e, m) := by
  rw [Forwards, beside] at cannot
  have listens := m.listen_rule k r
  cases barred : m.barred r.sourcePort with
  | some f =>
    simp only [barred] at listens
    exact ⟨_, by simp [setUp, beside, listens]; rfl⟩
  | none =>
    have busy : m.inUse .loopback (m.portOf r) = true := by simpa [barred] using cannot
    simp only [barred, busy] at listens
    exact ⟨_, by simp [setUp, beside, listens]; rfl⟩

/-! ## Opening a session -/

variable {user password : String} {rule : Option Forward.Rule} {keepaliveMs : Nat}

/-- A login changes nothing but the connections and what the server has seen. -/
theorem logged_eq (m : Machine) (user password : String) (p : Plan) :
    m.logged user password p = { m with
      links := (m.logged user password p).links
      linked := m.linked + 1
      seen := (m.logged user password p).seen } := by
  rw [logged]
  split
  · rw [cut]
    split <;> rfl
  · rfl

theorem linked_logged (m : Machine) (user password : String) (p : Plan) :
    (m.logged user password p).linked = m.linked + 1 := by
  rw [logged_eq]

theorem listeners_logged (m : Machine) (user password : String) (p : Plan) :
    (m.logged user password p).listeners = m.listeners := by
  rw [logged_eq]

theorem listened_logged (m : Machine) (user password : String) (p : Plan) :
    (m.logged user password p).listened = m.listened := by
  rw [logged_eq]

theorem links_logged_other {j : LinkId} (other : j ≠ m.linked) (user password : String) (p : Plan) :
    (m.logged user password p).links j = m.links j := by
  have added : ((m.see (.login user password)).addLink p).links j = m.links j := put_other _ _ other
  rw [logged]
  split
  · rw [cut]
    split
    · exact (put_other _ _ other).trans added
    · exact added
  · exact added

theorem forwards_logged (m : Machine) (user password : String) (p : Plan) (r : Forward.Rule) :
    (m.logged user password p).Forwards r ↔ m.Forwards r := by
  rw [logged_eq]
  rfl

/-- The forward that a connection asks for first is granted where the server grants forwards. -/
theorem grants_logged_iff (m : Machine) (user password : String) (p : Plan) :
    (m.logged user password p).Grants m.linked ↔ m.server.grantsForwards = true := by
  have server := m.server_logged user password p
  constructor
  · rintro ⟨up, stays, accepts⟩
    rw [links_logged, Bool.not_eq_true'] at up
    rw [server] at stays accepts
    simp [Server.grantsForwards, stays, accepts, up]
  · intro grants
    simp only [Server.grantsForwards, Bool.and_eq_true, Bool.not_eq_true'] at grants
    obtain ⟨⟨lasts, stays⟩, accepts⟩ := grants
    exact ⟨by rw [links_logged, lasts]; rfl, by rw [server, stays], by rw [server, accepts]⟩

/-- What the new connection holds: nothing without a rule, else the one forward of the rule. -/
inductive Bears (m m' : Machine) (user password : String) : Option Forward.Rule → Prop
  | nothing : m'.listeners = m.listeners → m'.listened = m.listened →
    (m'.links m.linked).grants = [] → (m'.session m.linked).forward = none →
    m'.seen = m.seen ++ m.loginSights user password → Bears m m' user password none
  | granted {r : Forward.Rule} : r.isRemote = true → m'.listeners = m.listeners →
    m'.listened = m.listened →
    (m'.links m.linked).grants = [(forwardAddress, m.server.grantedPort r.sourcePort.toNat)] →
    (m'.session m.linked).forward =
      some (.granted forwardAddress (m.server.heardPort r.sourcePort.toNat)) →
    m'.seen = m.seen ++ [.login user password, .forward forwardAddress r.sourcePort.toNat] →
    Bears m m' user password (some r)
  | listener {r : Forward.Rule} : r.isRemote = false →
    m'.listeners = put m.listeners m.listened (m.listenerOf m.linked r) →
    m'.listened = m.listened + 1 → (m'.links m.linked).grants = [] →
    (m'.session m.linked).forward = some (.listener m.listened) →
    m'.seen = m.seen ++ m.loginSights user password → Bears m m' user password (some r)

/-- A session was opened: there is one more connection, which stands, if the server has not dropped it
since, and holds what it was asked for. -/
structure Opens (m m' : Machine) (user password : String) (rule : Option Forward.Rule) : Prop where
  linked : m'.linked = m.linked + 1
  up : (m'.links m.linked).isUp = !m.server.dropsSessions
  alive : m'.isAlive m.linked = true
  others : ∀ k, k ≠ m.linked → m'.links k = m.links k
  bears : Bears m m' user password rule

/-- No session was opened, and nothing is left of the attempt: no listener and no grant, and no
connection of which the server has not seen the end. -/
structure LeavesNothing (m m' : Machine) : Prop where
  listened : m'.listened = m.listened
  listeners : ∀ l, (m'.listeners l).running = true → m'.listeners l = m.listeners l
  others : ∀ k, k ≠ m.linked → m'.links k = m.links k
  connection : m'.linked = m.linked ∧ m'.links m.linked = m.links m.linked ∨
    m'.linked = m.linked + 1 ∧ (m'.links m.linked).isUp = false ∧
      (m'.links m.linked).grants = [] ∧ m'.isAlive m.linked = false
  closed : m' = m ∨ ∃ sights, m'.seen = m.seen ++ sights ++ [.closed]

theorem openSession_of_setUp {a : Active} (admits : m.Admits user password)
    (done : (m.logged user password ⟨targetOf? (some r), keepaliveMs⟩).setUp m.linked r = (.ok a, m')) :
    m.openSession user password (some r) keepaliveMs =
      (.ok m.linked, m'.setSession m.linked { m'.session m.linked with forward := some a }) := by
  rw [openSession, connect_admitted admits]
  dsimp only
  rw [done]

theorem openSession_of_setUp_error {e : Error} (admits : m.Admits user password)
    (failed : (m.logged user password ⟨targetOf? (some r), keepaliveMs⟩).setUp m.linked r =
      (.error e, m')) :
    m.openSession user password (some r) keepaliveMs = (.error e, m'.disconnect m.linked) := by
  rw [openSession, connect_admitted admits]
  dsimp only
  rw [failed]

theorem openSession_opens (admits : m.Admits user password) (forwards : ∀ r ∈ rule, m.Forwards r)
    (keepaliveMs : Nat) : ∃ m', m.openSession user password rule keepaliveMs = (.ok m.linked, m') ∧
      Opens m m' user password rule := by
  have fresh := m.session_logged user password ⟨targetOf? rule, keepaliveMs⟩
  have link := m.links_logged user password ⟨targetOf? rule, keepaliveMs⟩
  have seen := m.seen_logged user password ⟨targetOf? rule, keepaliveMs⟩
  have counted := m.linked_logged user password ⟨targetOf? rule, keepaliveMs⟩
  have unheard := m.listeners_logged user password ⟨targetOf? rule, keepaliveMs⟩
  have listened := m.listened_logged user password ⟨targetOf? rule, keepaliveMs⟩
  have old (j : LinkId) (other : j ≠ m.linked) :=
    links_logged_other other user password ⟨targetOf? rule, keepaliveMs⟩
  cases rule with
  | none =>
    rw [openSession, connect_admitted admits]
    refine ⟨_, rfl, counted, by rw [link], ?_, old,
      .nothing unheard listened (by rw [link]) (by rw [fresh]) seen⟩
    rw [isAlive, fresh]
    rfl
  | some r =>
    have can := forwards r rfl
    by_cases remote : r.isRemote = true
    · rw [Forwards, if_pos remote] at can
      have grants := (m.grants_logged_iff user password ⟨targetOf? (some r), keepaliveMs⟩).mpr can
      have lasts : m.server.dropsSessions = false := by
        have up := grants.up
        rwa [link, Bool.not_eq_true'] at up
      rw [loginSights, lasts] at seen
      have done := setUp_granted fresh remote grants
      rw [server_logged] at done
      refine ⟨_, openSession_of_setUp admits done, counted, ?_, ?_, fun j other => ?_,
        .granted remote unheard listened ?_ ?_ ?_⟩
      · simp only [setSession, links_setLink, link]
      · simp only [isAlive, session, setSession, links_setLink]
        rfl
      · rw [setSession, setLink_setLink]
        exact (put_other _ _ other).trans (old j other)
      · simp only [setSession, links_setLink, link]
        rfl
      · simp only [session, setSession, links_setLink]
      · show (m.logged user password _).seen ++ [_] = _
        rw [seen]
        exact List.append_assoc _ _ _
    · have beside : r.isRemote = false := by simpa using remote
      have can := (m.forwards_logged user password ⟨targetOf? (some r), keepaliveMs⟩ r).mpr can
      have done := setUp_listens m.linked beside can
      rw [listened] at done
      refine ⟨_, openSession_of_setUp admits done, counted, ?_, ?_, fun j other => ?_,
        .listener beside ?_ rfl ?_ ?_ seen⟩
      · simp only [setSession, links_setLink, links_onOwner, link]
      · simp only [isAlive, session, setSession, links_setLink, links_onOwner]
        show (((m.logged user password ⟨targetOf? (some r), keepaliveMs⟩).session m.linked).owner.apply
          .share).isOpen = true
        rw [fresh]
        rfl
      · rw [onOwner_eq, setSession, setLink_setLink]
        exact (put_other _ _ other).trans (old j other)
      · show put (m.logged _ _ _).listeners m.listened ((m.logged _ _ _).listenerOf m.linked r) = _
        rw [logged_eq]
        rfl
      · simp only [setSession, links_setLink, links_onOwner, link]
      · simp only [session, setSession, links_setLink]

/-- What is left of a connection whose first request for a forward failed. Its end is seen last. -/
theorem Forfeits.left {p : Plan} {address reason : String} {port : Nat}
    (fails : Forfeits (m.logged user password p) m.linked address port reason m') :
    Spares m.linked (m.logged user password p) m' ∧ (m'.links m.linked).grants = [] ∧
      ∃ sights, m'.seen = m.seen ++ sights ++ if (m'.links m.linked).isUp then [] else [.closed] := by
  have link := m.links_logged user password p
  have seen := m.seen_logged user password p
  have none : ((m.logged user password p).links m.linked).grants = [] := by rw [link]
  have login (up : ((m.logged user password p).links m.linked).isUp = true) :
      (m.logged user password p).seen = m.seen ++ [.login user password] := by
    rw [link, Bool.not_eq_true'] at up
    rw [seen, loginSights, up]
    rfl
  cases fails with
  | lost down =>
    refine ⟨spares_refl _ _, none, [.login user password], ?_⟩
    have lost : m.server.dropsSessions = true := by
      rwa [link, Bool.not_eq_false'] at down
    simp [down, seen, loginSights, lost]
  | dropped up drops =>
    obtain ⟨spares, gone, told⟩ :=
      cut_ends (m := (m.logged user password p).see (.forward address port)) (k := m.linked) none
    refine ⟨(spares_see _ _ _).trans spares, by rw [gone]; exact none,
      [.login user password, .forward address port], ?_⟩
    have stood : (((m.logged user password p).see (.forward address port)).links m.linked).isUp = true := up
    rw [told, gone, stood]
    show (m.logged user password p).seen ++ [_] ++ _ = _
    rw [login up, List.append_assoc m.seen]
    rfl
  | rejected up drops rejects =>
    refine ⟨spares_see _ _ _, none, [.login user password, .forward address port], ?_⟩
    have stands : (((m.logged user password p).see (.forward address port)).links m.linked).isUp = true := up
    rw [stands]
    show (m.logged user password p).seen ++ [_] = _
    rw [login up, List.append_assoc m.seen, if_pos rfl, List.append_nil]
    rfl

/-- A connection that was logged in and ended again leaves nothing. -/
theorem Ends.leavesNothing {p : Plan} (sights : List Sight) (ends : Ends m.linked m' m'')
    (spares : Spares m.linked (m.logged user password p) m')
    (seen : m'.seen = m.seen ++ sights ++ if (m'.links m.linked).isUp then [] else [.closed]) :
    LeavesNothing m m'' := by
  have whole := spares.trans ends.toSpares
  refine ⟨whole.listened.trans (m.listened_logged user password p), fun l running => ?_, fun j other => ?_,
    .inr ⟨whole.linked.trans (m.linked_logged user password p), ends.down, ends.grants, ?_⟩,
    .inr ⟨sights, ?_⟩⟩
  · rw [whole.listeners l running, listeners_logged]
  · exact (whole.others j other).trans (links_logged_other other user password p)
  · have past : (m''.session m.linked).owner.stage = .over := ends.past
    rw [isAlive, Session.isAlive, Owner.isOpen, past]
  · rw [ends.seen, seen]
    split <;> simp

theorem openSession_turnedAway (turnedAway : ¬ m.Admits user password) (rule : Option Forward.Rule)
    (keepaliveMs : Nat) : ∃ e m', m.openSession user password rule keepaliveMs = (.error e, m') ∧
      LeavesNothing m m' := by
  obtain ⟨e, m', failed, seen⟩ := connect_turnedAway turnedAway ⟨targetOf? rule, keepaliveMs⟩
  refine ⟨e, m', by rw [openSession, failed], ?_⟩
  rcases seen with rfl | ⟨sights, rfl⟩
  · exact ⟨rfl, fun _ _ => rfl, fun _ _ => rfl, .inl ⟨rfl, rfl⟩, .inl rfl⟩
  · exact ⟨rfl, fun _ _ => rfl, fun _ _ => rfl, .inl ⟨rfl, rfl⟩, .inr ⟨sights, rfl⟩⟩

theorem openSession_taken_down (admits : m.Admits user password) (cannot : ¬ m.Forwards r)
    (keepaliveMs : Nat) : ∃ e m', m.openSession user password (some r) keepaliveMs = (.error e, m') ∧
      LeavesNothing m m' := by
  have fresh := m.session_logged user password ⟨targetOf? (some r), keepaliveMs⟩
  have link := m.links_logged user password ⟨targetOf? (some r), keepaliveMs⟩
  by_cases remote : r.isRemote = true
  · rw [Forwards, if_pos remote] at cannot
    rcases forfeits_or_grants (m.logged user password ⟨targetOf? (some r), keepaliveMs⟩) m.linked
      forwardAddress r.sourcePort.toNat with ⟨reason, m₁, fails⟩ | grants
    · obtain ⟨spares, none, sights, seen⟩ := fails.left
      refine ⟨_, _, openSession_of_setUp_error admits (setUp_failed fresh remote fails), ?_⟩
      refine Ends.leavesNothing sights (disconnect_ends ?_ ?_ ?_ ?_ ?_)
        (spares.trans (spares_setLink _ _ _)) ?_
      · simp only [links_setLink, answered, none]
      · simp only [owner, links_setLink, answered, Owner.afterFirst]
      · simp only [owner, links_setLink, answered, Owner.afterFirst]
      · simp only [owner, links_setLink, answered, Owner.afterFirst]
      · simp only [owner, links_setLink, answered, Owner.afterFirst]
      · simp only [links_setLink, answered]
        exact seen
    · exact absurd ((m.grants_logged_iff _ _ _).mp grants) cannot
  · have beside : r.isRemote = false := by simpa using remote
    have owned : (m.logged user password ⟨targetOf? (some r), keepaliveMs⟩).owner m.linked = {} :=
      congrArg Session.owner fresh
    obtain ⟨e, unbound⟩ := setUp_unbound m.linked beside
      fun can => cannot ((m.forwards_logged user password ⟨targetOf? (some r), keepaliveMs⟩ r).mp can)
    refine ⟨_, _, openSession_of_setUp_error admits unbound, ?_⟩
    refine Ends.leavesNothing [.login user password] (disconnect_ends ?_ ?_ ?_ ?_ ?_)
      (spares_refl _ _) ?_
    · rw [link]
    · rw [owned]
    · rw [owned]
    · rw [owned]
    · rw [owned]
    · rw [link, seen_logged, loginSights, List.append_assoc]
      cases m.server.dropsSessions <;> rfl

theorem openSession_leavesNothing (fails : ¬ (m.Admits user password ∧ ∀ r ∈ rule, m.Forwards r))
    (keepaliveMs : Nat) : ∃ e m', m.openSession user password rule keepaliveMs = (.error e, m') ∧
      LeavesNothing m m' := by
  by_cases admits : m.Admits user password
  · cases rule with
    | none => exact absurd ⟨admits, fun r there => by cases there⟩ fails
    | some r =>
      refine openSession_taken_down admits (fun forwards => fails ⟨admits, ?_⟩) keepaliveMs
      intro other there
      cases there
      exact forwards
  · exact openSession_turnedAway admits rule keepaliveMs

/-- **Opening a session is all or nothing.** It succeeds exactly if the server takes the connection and
the login, and the forward comes to be that is asked for. Then that forward is all that there is more.
Else nothing is left: no listener, no grant, and no connection of which the server has not seen the
end. -/
theorem open_all_or_nothing (m : Machine) (user password : String) (rule : Option Forward.Rule)
    (keepaliveMs : Nat) :
    ((∃ k, (m.openSession user password rule keepaliveMs).1 = .ok k) ↔
      m.Admits user password ∧ ∀ r ∈ rule, m.Forwards r) ∧
    (∀ k m', m.openSession user password rule keepaliveMs = (.ok k, m') →
      k = m.linked ∧ Opens m m' user password rule) ∧
    ∀ e m', m.openSession user password rule keepaliveMs = (.error e, m') → LeavesNothing m m' := by
  by_cases succeeds : m.Admits user password ∧ ∀ r ∈ rule, m.Forwards r
  · obtain ⟨m', opened, opens⟩ := openSession_opens succeeds.1 succeeds.2 keepaliveMs
    refine ⟨⟨fun _ => succeeds, fun _ => ⟨_, by rw [opened]⟩⟩, ?_, ?_⟩
    · intro k m'' again
      rw [opened] at again
      cases again
      exact ⟨rfl, opens⟩
    · intro e m'' failed
      rw [opened] at failed
      cases failed
  · obtain ⟨e, m', failed, nothing⟩ := openSession_leavesNothing succeeds keepaliveMs
    refine ⟨⟨?_, fun all => absurd all succeeds⟩, ?_, ?_⟩
    · rintro ⟨k, opened⟩
      rw [failed] at opened
      cases opened
    · intro k m'' opened
      rw [failed] at opened
      cases opened
    · intro e' m'' again
      rw [failed] at again
      cases again
      exact nothing

/-- A machine on which listening at port 80 is not permitted. -/
def guarded : Machine where
  server := { address := "host:22", user := "alice", password := "secret" }
  barred port := if port = 80 then some .forbidden else none

def leading (port : UInt16) : Forward.Rule :=
  { nickname := "web", isRemote := false, sourcePort := port, destinationHost := "localhost"
    destinationPort := 3000 }

/-- A forward of port 8080 is opened on that machine, and one of port 80 is not. -/
theorem open_all_or_nothing_guarded :
    (∃ m', guarded.openSession "alice" "secret" (some (leading 8080)) 0 = (.ok 0, m') ∧
      Opens guarded m' "alice" "secret" (some (leading 8080))) ∧
    ∃ e m', guarded.openSession "alice" "secret" (some (leading 80)) 0 = (.error e, m') ∧
      LeavesNothing guarded m' := by
  have admits : guarded.Admits "alice" "secret" := ⟨rfl, by decide⟩
  obtain ⟨opens, opened, -⟩ := guarded.open_all_or_nothing "alice" "secret" (some (leading 8080)) 0
  obtain ⟨k, ok⟩ := opens.mpr ⟨admits, fun r there => by cases there; exact ⟨rfl, by decide⟩⟩
  obtain ⟨rfl, all⟩ := opened k _ (Prod.ext ok rfl)
  refine ⟨⟨_, Prod.ext ok rfl, all⟩, ?_⟩
  obtain ⟨opens, -, nothing⟩ := guarded.open_all_or_nothing "alice" "secret" (some (leading 80)) 0
  cases result : guarded.openSession "alice" "secret" (some (leading 80)) 0 with
  | mk answer m' =>
    cases answer with
    | ok k =>
      have forwards := (opens.mp ⟨k, by rw [result]⟩).2 _ rfl
      cases forwards.1
    | error e => exact ⟨e, m', rfl, nothing e m' result⟩

end Machine
end BridgeKeeper.Ssh
