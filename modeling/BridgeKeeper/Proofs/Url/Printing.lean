import BridgeKeeper.Proofs.Text.Ends
import BridgeKeeper.Proofs.Url.Authority
import BridgeKeeper.Proofs.Url.Path

/-!
# The text of a URL is read again

A URL that was read from a text with a host keeps its parts encoded, also when user name and fragment are
set; its text is read without fault, and the fragment is the same.
-/
namespace BridgeKeeper.Url

open Text Text.Percent

variable {u : Url} {host : Host} {scheme s : List Char} {a : Authority} {set : Char → Bool}

/-- Every part is encoded by the set of its place, and without a host there is neither login nor port. -/
structure Encoded (u : Url) (host : Host) : Prop where
  own : u.host = some host
  shown : parseOpaqueHost host.chars = .ok host
  username : ∃ s, u.username = encode inUserinfo s
  password : ∃ s, u.password = encode inUserinfo s
  port : ∀ p, u.port = some p → p ≤ 65535
  path : ∃ parts, u.path = .segments parts ∧ ∀ p ∈ parts, ∃ s, p = encode inPath s
  query : ∀ q, u.query = some q → ∃ s, q = encode inQuery s
  fragment : ∀ f, u.fragment = some f → ∃ s, f = encode inFragment s
  bare : host = .name [] → u.username = [] ∧ u.password = [] ∧ u.port = none

/-! ## What is read is encoded -/

theorem encode_eq_nil (h : encode set s = []) : s = [] := by
  cases s with
  | nil => rfl
  | cons c r =>
    rw [encode, List.flatMap_cons] at h
    have none := (List.append_eq_nil_iff.mp h).1
    rcases encodeChar_cases set c with ⟨-, same⟩ | ⟨-, same⟩
    · rw [same] at none
      cases none
    · obtain ⟨b, bytes, some⟩ := List.exists_cons_of_length_pos (Utf8.length_encodeChar_pos c)
      rw [same, some] at none
      cases none

/-- The text of a host that was read is read as that host. -/
theorem parseOpaqueHost_chars (h : parseOpaqueHost s = .ok host) :
    parseOpaqueHost host.chars = .ok host := by
  rcases of_parseOpaqueHost h with ⟨inner, ps, -, address, rfl⟩ | ⟨plain, rfl⟩
  · exact parseOpaqueHost_ipv6 (parseIpv6?_ipv6Chars (of_parseIpv6? address).2)
  · have kept : ∀ c ∈ encode isControl s, isForbidden c = false :=
      forall_mem_encode (by decide) fun c there _ _ => plain c there
    rw [Host.chars, parseOpaqueHost_name kept, keeps_isControl.encode_encode]

theorem eq_nil_of_parseOpaqueHost (h : parseOpaqueHost s = .ok (.name [])) : s = [] := by
  rcases of_parseOpaqueHost h with ⟨inner, ps, -, -, other⟩ | ⟨-, same⟩
  · cases other
  · exact encode_eq_nil (Host.name.inj same).symm

theorem encoded_readSegments (s : List Char) : ∀ p ∈ readSegments .other s, ∃ s, p = encode inPath s := by
  intro p there
  exact Trail.forall_mem_addAll (P := fun p => ∃ s, p = encode inPath s) (by decide) ⟨[], rfl⟩
    (fun _ _ => ⟨_, rfl⟩) (List.forall_mem_nil _) p (List.mem_reverse.mp there)

theorem encoded_readEnd (s : List Char) :
    (∀ q, (readEnd .other s).1 = some q → ∃ t, q = encode inQuery t) ∧
      ∀ f, (readEnd .other s).2 = some f → ∃ t, f = encode inFragment t := by
  unfold readEnd
  split
  · constructor
    · rintro _ ⟨⟩
      exact ⟨_, rfl⟩
    · intro f there
      dsimp only at there
      split at there
      · cases there
      · exact ⟨_, (Option.some.inj there).symm⟩
  · constructor
    · rintro _ ⟨⟩
    · intro f there
      dsimp only at there
      split at there
      · cases there
      · exact ⟨_, (Option.some.inj there).symm⟩

theorem Authority.Sound.encoded (h : a.Sound host) : (a.url scheme host).Encoded host where
  own := rfl
  shown := parseOpaqueHost_chars h.name
  username := by
    rw [url]
    cases a.login with
    | none => exact ⟨[], rfl⟩
    | some l => exact ⟨_, rfl⟩
  password := by
    rw [url]
    cases a.login with
    | none => exact ⟨[], rfl⟩
    | some l => exact ⟨_, rfl⟩
  port := by
    intro p there
    obtain ⟨ds, port, some⟩ := Option.bind_eq_some_iff.mp there
    split at some
    · cases some
    · rw [← Option.some.inj some]
      exact (h.port ds port).2
  path := by
    rw [url, Authority.path]
    refine ⟨_, rfl, ?_⟩
    split
    · exact List.forall_mem_nil _
    · exact encoded_readSegments _
    · exact encoded_readSegments _
  query := (encoded_readEnd _).1
  fragment := (encoded_readEnd _).2
  bare := by
    rintro rfl
    obtain ⟨port, account, -⟩ := h.bare (eq_nil_of_parseOpaqueHost h.name)
    rw [url, account, port]
    exact ⟨rfl, rfl, rfl⟩

theorem Encoded.setFragment (h : u.Encoded host) (text : List Char) :
    (u.setFragment text).Encoded host :=
  { h with
    fragment := by
      rintro _ ⟨⟩
      exact ⟨_, rfl⟩ }

theorem Encoded.setUsername? {v : Url} {name : List Char} (h : u.Encoded host)
    (done : u.setUsername? name = some v) : v.Encoded host := by
  rw [Url.setUsername?] at done
  split at done
  · next takes =>
    rw [← Option.some.inj done]
    refine { h with username := ⟨_, rfl⟩, bare := fun none => ?_ }
    rw [takesLogin, h.own, none] at takes
    cases takes
  · cases done

/-! ## The text -/

def written (u : Url) (host : Host) : Authority where
  login :=
    if u.username.isEmpty && u.password.isEmpty then none
    else some (u.username ++ if u.password.isEmpty then [] else ':' :: u.password)
  name := host.chars
  port := u.port.map decimal
  rest := u.path.chars ++ (queryChars u ++ fragmentChars u)

theorem chars_written (h : u.host = some host) :
    u.chars = u.scheme ++ ':' :: '/' :: '/' :: (u.written host).chars := by
  have login : loginChars u = (u.written host).loginChars := by
    rw [loginChars, Authority.loginChars, written]
    split
    · rfl
    · rfl
  have port : portChars u = (u.written host).portChars := by
    rw [portChars, Authority.portChars, written]
    cases u.port <;> rfl
  rw [chars, authorityChars, h]
  simp only [Authority.chars, ← login, ← port, List.append_assoc, List.cons_append]
  rfl

/-- What begins with a slash, a question mark or a hash, or is empty. -/
def Opens (s : List Char) : Prop := s.takeWhile (fun c => !endsAuthority .other c) = []

theorem opens_cons {c : Char} (h : endsAuthority .other c = true) (r : List Char) : Opens (c :: r) := by
  rw [Opens, List.takeWhile_cons, if_neg (by rw [h]; decide)]

theorem Opens.append {t : List Char} (h : Opens s) (h' : Opens t) : Opens (s ++ t) := by
  cases s with
  | nil => exact h'
  | cons c r =>
    rw [Opens, List.takeWhile_cons] at h
    split at h
    · cases h
    · next ends => rw [List.cons_append, Opens, List.takeWhile_cons, if_neg ends]

theorem opens_queryChars (u : Url) : Opens (queryChars u) := by
  rw [queryChars]
  split
  · rfl
  · exact opens_cons rfl _

theorem opens_fragmentChars (u : Url) : Opens (fragmentChars u) := by
  rw [fragmentChars]
  split
  · rfl
  · exact opens_cons rfl _

theorem opens_segmentChars (parts : List (List Char)) : Opens (segmentChars parts) := by
  cases parts with
  | nil => rfl
  | cons p parts => exact opens_cons rfl _

theorem plain_userinfo : ∀ c ∈ encode inUserinfo s, endsAuthority .other c = false := by
  refine forall_mem_encode (by decide) fun c _ _ plain => ?_
  refine (plain_of (p := fun c => !inUserinfo c) ?_ (by decide)).1
  rw [plain]
  rfl

theorem Encoded.written_sound (h : u.Encoded host) : (u.written host).Sound host where
  login := by
    intro l there
    rw [written] at there
    split at there
    · cases there
    · rw [← Option.some.inj there]
      obtain ⟨name, username⟩ := h.username
      obtain ⟨word, password⟩ := h.password
      rw [username, password]
      refine List.forall_mem_append.mpr ⟨plain_userinfo, ?_⟩
      split
      · exact List.forall_mem_nil _
      · exact List.forall_mem_cons.mpr ⟨rfl, plain_userinfo⟩
  name := h.shown
  port := by
    intro ds there
    obtain ⟨p, own, rfl⟩ := Option.map_eq_some_iff.mp there
    exact ⟨fun c => isDigit_of_mem_decimal, by rw [decimalValue_decimal]; exact h.port p own⟩
  rest := by
    obtain ⟨parts, path, -⟩ := h.path
    left
    rw [Authority.margin, written, path]
    exact (opens_segmentChars parts).append ((opens_queryChars u).append (opens_fragmentChars u))
  bare := by
    intro none
    have shown := h.shown
    rw [show host.chars = [] from none] at shown
    obtain ⟨username, password, port⟩ := h.bare (Except.ok.inj shown).symm
    rw [written, username, password, port]
    exact ⟨rfl, rfl, fun some => by cases some⟩

theorem cutPath_append {p r : List Char} (plain : ∀ c ∈ p, (c != '?' && c != '#') = true)
    (opens : r.takeWhile (fun c => c != '?' && c != '#') = []) : cutPath (p ++ r) = (p, r) := by
  have whole := List.takeWhile_append_dropWhile (p := fun c : Char => c != '?' && c != '#') (l := r)
  rw [opens, List.nil_append] at whole
  rw [cutPath, List.takeWhile_append_of_pos plain, List.dropWhile_append_of_pos plain, opens, whole,
    List.append_nil]

theorem Encoded.path_plain (h : u.Encoded host) : ∀ c ∈ u.path.chars, (c != '?' && c != '#') = true := by
  obtain ⟨parts, path, each⟩ := h.path
  rw [path]
  intro c there
  rcases mem_segmentChars there with rfl | ⟨p, within, there⟩
  · rfl
  · obtain ⟨s, rfl⟩ := each p within
    refine forall_mem_encode (P := fun c => (c != '?' && c != '#') = true) (by decide)
      (fun c _ _ plain => ?_) c there
    rw [Bool.and_eq_true, bne_iff_ne, bne_iff_ne]
    constructor <;> (rintro rfl; cases plain)

/-- The fragment of a text that is read. -/
theorem readEnd_fragment (h : u.Encoded host) :
    (readEnd .other (queryChars u ++ fragmentChars u)).2 = u.fragment := by
  have same (f : List Char) (own : u.fragment = some f) : encode inFragment f = f := by
    obtain ⟨s, rfl⟩ := h.fragment f own
    exact keeps_inFragment.encode_encode s
  rw [queryChars, fragmentChars]
  cases query : u.query with
  | none =>
    cases own : u.fragment with
    | none => rfl
    | some f => exact congrArg some (same f own)
  | some q =>
    obtain ⟨s, rfl⟩ := h.query q query
    have plain : ∀ c ∈ encode inQuery s, (c != '#') = true :=
      forall_mem_encode (by decide) fun c _ _ plain => by
        rw [bne_iff_ne]
        rintro rfl
        cases plain
    rw [List.cons_append, readEnd, List.dropWhile_append_of_pos plain]
    cases own : u.fragment with
    | none => rfl
    | some f => exact congrArg some (same f own)

theorem Encoded.fragment_written (h : u.Encoded host) :
    ((u.written host).url scheme host).fragment = u.fragment := by
  have opens : (queryChars u ++ fragmentChars u).takeWhile (fun c => c != '?' && c != '#') = [] := by
    rw [queryChars, fragmentChars]
    cases u.query <;> cases u.fragment <;> rfl
  rw [Authority.url, written, cutPath_append h.path_plain opens]
  exact readEnd_fragment h

theorem visible_of {c : Char} (control : isControl c = false) (space : c ≠ ' ') :
    isControlOrSpace c = false := by
  rw [isControl, Bool.or_eq_false_iff, decide_eq_false_iff_not] at control
  have other : c.toNat ≠ 0x20 := fun same => space (Char.ext (UInt32.toNat_inj.mp same))
  exact decide_eq_false (by omega)

def Hides (set : Char → Bool) : Prop :=
  ∀ c, set c = false → isControl c = false ∧ c ≠ ' '

theorem hides_inFragment : Hides inFragment := by
  intro c plain
  simp only [inFragment, Bool.or_eq_false_iff, beq_eq_false_iff_ne] at plain
  exact ⟨plain.1.1.1.1.1, plain.1.1.1.1.2⟩

theorem hides_inPath : Hides inPath := by
  intro c plain
  simp only [inPath, Bool.or_eq_false_iff] at plain
  exact hides_inFragment c plain.1.1.1.1

theorem hides_inUserinfo : Hides inUserinfo := by
  intro c plain
  simp only [inUserinfo, Bool.or_eq_false_iff] at plain
  exact hides_inPath c plain.1.1.1.1.1.1.1.1.1.1

theorem hides_inQuery : Hides inQuery := by
  intro c plain
  simp only [inQuery, Bool.or_eq_false_iff, beq_eq_false_iff_ne] at plain
  exact ⟨plain.1.1.1.1.1, plain.1.1.1.1.2⟩

theorem Hides.visible_encode (h : Hides set) (s : List Char) :
    ∀ c ∈ encode set s, isControlOrSpace c = false :=
  forall_mem_encode (by decide) fun c _ _ plain => visible_of (h c plain).1 (h c plain).2

theorem visible_of_hexValue? {c : Char} (h : (hexValue? c).isSome) : isControlOrSpace c = false := by
  have plain := hides_inFragment c (keeps_inFragment.digits h).2
  exact visible_of plain.1 plain.2

theorem visible_decimal (n : Nat) : ∀ c ∈ decimal n, isControlOrSpace c = false := by
  refine fun c there => visible_of_hexValue? ?_
  rw [hexValue?, if_pos (isDigit_of_mem_decimal there)]
  rfl

theorem visible_host (h : parseOpaqueHost host.chars = .ok host) :
    ∀ c ∈ host.chars, isControlOrSpace c = false := by
  rcases of_parseOpaqueHost h with ⟨inner, ps, whole, address, -⟩ | ⟨plain, same⟩
  · rw [whole, List.cons_append]
    refine List.forall_mem_cons.mpr ⟨rfl, List.forall_mem_append.mpr
      ⟨fun c there => ?_, List.forall_mem_singleton.mpr rfl⟩⟩
    have known := (of_parseIpv6? address).1 c there
    simp only [isIpv6Char, Bool.or_eq_true, beq_iff_eq] at known
    rcases known with (digit | rfl) | rfl
    · exact visible_of_hexValue? digit
    · rfl
    · rfl
  · have encoded : host.chars = encode isControl host.chars := congrArg Host.chars same
    have controls : ∀ c ∈ host.chars, isControl c = false := by
      rw [encoded]
      exact forall_mem_encode (by decide) fun c _ _ plain => plain
    intro c there
    refine visible_of (controls c there) ?_
    rintro rfl
    cases plain _ there

theorem Encoded.visible_login (h : u.Encoded host) :
    ∀ c ∈ (u.written host).loginChars, isControlOrSpace c = false := by
  obtain ⟨name, username⟩ := h.username
  obtain ⟨word, password⟩ := h.password
  have shown := hides_inUserinfo.visible_encode
  rw [Authority.loginChars, written]
  split
  · exact List.forall_mem_nil _
  · next l there =>
    split at there
    · cases there
    · rw [← Option.some.inj there, username, password]
      refine List.forall_mem_append.mpr ⟨List.forall_mem_append.mpr ⟨shown name, ?_⟩,
        List.forall_mem_singleton.mpr rfl⟩
      split
      · exact List.forall_mem_nil _
      · exact List.forall_mem_cons.mpr ⟨rfl, shown word⟩

theorem Encoded.visible_rest (h : u.Encoded host) :
    ∀ c ∈ (u.written host).rest, isControlOrSpace c = false := by
  obtain ⟨parts, path, each⟩ := h.path
  rw [written, path]
  refine List.forall_mem_append.mpr ⟨fun c there => ?_, List.forall_mem_append.mpr ⟨?_, ?_⟩⟩
  · rcases mem_segmentChars there with rfl | ⟨p, within, there⟩
    · rfl
    · obtain ⟨s, rfl⟩ := each p within
      exact hides_inPath.visible_encode s c there
  · rw [queryChars]
    cases own : u.query with
    | none => exact List.forall_mem_nil _
    | some q =>
      obtain ⟨s, rfl⟩ := h.query q own
      exact List.forall_mem_cons.mpr ⟨rfl, hides_inQuery.visible_encode s⟩
  · rw [fragmentChars]
    cases own : u.fragment with
    | none => exact List.forall_mem_nil _
    | some f =>
      obtain ⟨s, rfl⟩ := h.fragment f own
      exact List.forall_mem_cons.mpr ⟨rfl, hides_inFragment.visible_encode s⟩

/-- No control and no space is in the text. -/
theorem Encoded.visible (h : u.Encoded host) :
    ∀ c ∈ (u.written host).chars, isControlOrSpace c = false := by
  refine List.forall_mem_append.mpr ⟨h.visible_login, List.forall_mem_append.mpr
    ⟨visible_host h.shown, List.forall_mem_append.mpr ⟨?_, h.visible_rest⟩⟩⟩
  rw [Authority.portChars, written]
  cases u.port with
  | none => exact List.forall_mem_nil _
  | some p => exact List.forall_mem_cons.mpr ⟨rfl, visible_decimal p⟩

/-! ## Reading a text -/

theorem unbroken_of_visible (h : ∀ c ∈ s, isControlOrSpace c = false) : unbroken s = s := by
  refine unbroken_eq_self_iff.mpr fun c there => ?_
  have seen := h c there
  rw [isTabOrBreak, Bool.or_eq_false_iff, Bool.or_eq_false_iff]
  refine ⟨⟨?_, ?_⟩, ?_⟩ <;> (rw [beq_eq_false_iff_ne]; rintro rfl; cases seen)

theorem trimmed_eq_self (first : ∀ c, s.head? = some c → isControlOrSpace c = false)
    (last : ∀ c, s.getLast? = some c → isControlOrSpace c = false) : trimmed s = s :=
  (strips_self first last).eq

/-- A text of the scheme `ssh` with two slashes is read from the authority on. -/
theorem parse_ssh (last : ∀ c, s.getLast? = some c → isControlOrSpace c = false) :
    parse ("ssh://".toList ++ s) = parseAuthority "ssh".toList (unbroken s) := by
  have same : trimmed ("ssh://".toList ++ s) = "ssh://".toList ++ s := by
    refine trimmed_eq_self (by rintro _ ⟨⟩; rfl) fun c there => ?_
    rw [List.getLast?_append] at there
    cases own : s.getLast? with
    | none =>
      rw [own] at there
      rw [← Option.some.inj there]
      rfl
    | some d =>
      rw [own] at there
      exact Option.some.inj there ▸ last d own
  rw [parse, same]
  rfl

/-- The text of a URL whose parts are encoded is read, with the same fragment. -/
theorem Encoded.parse_chars (h : u.Encoded host) (ssh : u.scheme = "ssh".toList) :
    ∃ v, parse u.chars = .ok v ∧ v.fragment = u.fragment := by
  have last (c : Char) (there : (u.written host).chars.getLast? = some c) : isControlOrSpace c = false :=
    h.visible c (List.mem_of_getLast? there)
  have same : unbroken (u.written host).chars = (u.written host).chars :=
    unbroken_of_visible h.visible
  refine ⟨(u.written host).url "ssh".toList host, ?_, h.fragment_written⟩
  rw [chars_written h.own, ssh]
  exact (parse_ssh last).trans (by rw [same]; exact h.written_sound.parse rfl)

end BridgeKeeper.Url
