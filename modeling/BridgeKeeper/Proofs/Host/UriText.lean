import BridgeKeeper.Proofs.Host.Naming

/-!
# The text of the URI of a host

A host whose name is made of letters, digits, dots, hyphens and low lines has a URI whatever its user name,
its port and its nickname are, and the text of the URI is put together from them: no character of the user
name or the nickname takes part in how it is read.
-/
namespace BridgeKeeper.Host.Record

open Text Url

variable {r : Record} {name : List Char} {c : Char} {u : Url}

/-! ## Names of hosts -/

def isHostChar (c : Char) : Bool :=
  c.isAlphanum || c == '.' || c == '-' || c == '_'

theorem range_of_between {low high : Char} (least : '-' ≤ low) (most : high ≤ 'z') (first : low ≤ c)
    (last : c ≤ high) : 0x2D ≤ c.toNat ∧ c.toNat < 0x7F :=
  ⟨UInt32.le_iff_toNat_le.mp (Char.le_trans least first),
    Nat.lt_of_le_of_lt (UInt32.le_iff_toNat_le.mp (Char.le_trans last most)) (by decide)⟩

theorem isHostChar_range (h : isHostChar c = true) : 0x2D ≤ c.toNat ∧ c.toNat < 0x7F := by
  have h : (c.isUpper || c.isLower || c.isDigit || c == '.' || c == '-' || c == '_') = true := h
  simp only [Bool.or_eq_true, beq_iff_eq] at h
  rcases h with ((((upper | lower) | digit) | rfl) | rfl) | rfl
  · obtain ⟨first, last⟩ : 'A' ≤ c ∧ c ≤ 'Z' := of_decide_eq_true upper
    exact range_of_between (by decide) (by decide) first last
  · have both : (decide ('a' ≤ c) && decide (c ≤ 'z')) = true := lower
    rw [Bool.and_eq_true, decide_eq_true_eq, decide_eq_true_eq] at both
    exact range_of_between (by decide) (by decide) both.1 both.2
  · have both : (decide ('0' ≤ c) && decide (c ≤ '9')) = true := digit
    rw [Bool.and_eq_true, decide_eq_true_eq, decide_eq_true_eq] at both
    exact range_of_between (by decide) (by decide) both.1 both.2
  all_goals decide

theorem not_isForbidden (h : isHostChar c = true) : isForbidden c = false := by
  refine eq_false_of_ne_true fun forbidden => ?_
  simp only [isForbidden, Bool.or_eq_true, beq_iff_eq, or_assoc] at forbidden
  rcases forbidden with rfl | rfl | rfl | rfl | rfl | rfl | rfl | rfl | rfl | rfl | rfl | rfl | rfl | rfl |
    rfl | rfl | rfl <;> cases h

/-- Such a name is a host as it stands. -/
theorem parseOpaqueHost_plain (plain : ∀ c ∈ name, isHostChar c = true) :
    parseOpaqueHost name = .ok (.name name) := by
  have same : Percent.encode Percent.isControl name = name := by
    refine Percent.encode_eq_self fun c there => ?_
    obtain ⟨low, high⟩ := isHostChar_range (plain c there)
    refine ⟨by omega, ?_⟩
    rw [Percent.isControl, Bool.or_eq_false_iff, decide_eq_false_iff_not, beq_eq_false_iff_ne]
    exact ⟨by omega, by omega⟩
  rw [parseOpaqueHost_name fun c there => not_isForbidden (plain c there), same]

theorem unbroken_plain (plain : ∀ c ∈ name, isHostChar c = true) : unbroken name = name := by
  refine unbroken_of_visible fun c there => decide_eq_false ?_
  have low := (isHostChar_range (plain c there)).1
  omega

/-! ## The text -/

def userChars (r : Record) : List Char :=
  if r.username.isEmpty then [] else Percent.encode Percent.inUserinfo r.username.toList ++ ['@']

def uriChars (r : Record) : List Char :=
  "ssh://".toList ++ r.userChars ++ r.hostname.toList ++ ':' :: decimal r.port.toNat ++ "/#".toList ++
    Percent.encode Percent.inFragment (unbroken r.nickname.toList)

/-- The URL of a name and a port, to which user name and fragment are added. -/
def placeUrl (r : Record) : Url :=
  Authority.url ⟨none, r.hostname.toList, some (decimal r.port.toNat), ['/']⟩ "ssh".toList
    (.name r.hostname.toList)

theorem parse_place_plain (named : r.hostname ≠ "")
    (plain : ∀ c ∈ r.hostname.toList, isHostChar c = true) :
    parseAuthority "ssh".toList (placeChars r.hostname r.port) = .ok r.placeUrl := by
  have some : r.hostname.toList ≠ [] := mt String.toList_eq_nil_iff.mp named
  have whole : placeChars r.hostname r.port =
      Authority.chars ⟨none, r.hostname.toList, .some (decimal r.port.toNat), ['/']⟩ := by
    rw [placeChars, unbroken_plain plain]
    rfl
  rw [whole]
  exact (sound_place some (parseOpaqueHost_plain plain) r.port).parse rfl

def plainUri (r : Record) : Url :=
  { r.placeUrl with
    username := if r.username.isEmpty then [] else Percent.encode Percent.inUserinfo r.username.toList
    fragment := some (Percent.encode Percent.inFragment (unbroken r.nickname.toList)) }

theorem uri?_plain (ssh : r.protocol = "ssh") (named : r.hostname ≠ "")
    (plain : ∀ c ∈ r.hostname.toList, isHostChar c = true) : r.uri? = some r.plainUri := by
  have takes : r.placeUrl.takesLogin = true := by
    have some : r.hostname.toList ≠ [] := mt String.toList_eq_nil_iff.mp named
    exact (takesLogin_iff (sound_place some (parseOpaqueHost_plain plain) r.port)).mpr some
  rw [uri?_eq ssh, parse_place_plain named plain, plainUri]
  simp only [Except.toOption, Option.bind_some]
  by_cases none : r.username.isEmpty = true
  · rw [if_pos none, if_pos none]
    rfl
  · rw [if_neg none, if_neg none, setUsername?]
    rw [if_pos takes]
    rfl

theorem placeUrl_eq (r : Record) : r.placeUrl =
    ⟨"ssh".toList, [], [], some (.name r.hostname.toList), some r.port.toNat, .segments [[]], none,
      none⟩ := by
  have port : ((some (decimal r.port.toNat)).bind fun ds =>
      if ds.isEmpty then none else some (decimalValue ds)) = some r.port.toNat := by
    rw [Option.bind_some, if_neg, decimalValue_decimal]
    rw [List.isEmpty_iff]
    exact decimal_ne_nil _
  rw [placeUrl, Authority.url, port]
  rfl

theorem loginChars_plainUri (r : Record) : loginChars r.plainUri = r.userChars := by
  rw [loginChars, plainUri, placeUrl_eq, userChars]
  by_cases none : r.username.isEmpty = true
  · rw [if_pos none, if_pos none]
    rfl
  · have some : (Percent.encode Percent.inUserinfo r.username.toList).isEmpty = false := by
      rw [List.isEmpty_eq_false_iff]
      intro empty
      exact none (by simpa using encode_eq_nil empty)
    rw [if_neg none, if_neg none]
    simp only [some]
    simp

theorem chars_plainUri (r : Record) : r.plainUri.chars = r.uriChars := by
  have login := loginChars_plainUri r
  have host : r.plainUri.host = some (.name r.hostname.toList) := by rw [plainUri, placeUrl_eq]
  have port : r.plainUri.port = some r.port.toNat := by rw [plainUri, placeUrl_eq]
  have path : r.plainUri.path.chars = ['/'] := by
    rw [plainUri, placeUrl_eq]
    rfl
  have query : queryChars r.plainUri = [] := by rw [queryChars, plainUri, placeUrl_eq]
  have fragment : fragmentChars r.plainUri =
      '#' :: Percent.encode Percent.inFragment (unbroken r.nickname.toList) := by
    rw [fragmentChars, plainUri]
  have scheme : r.plainUri.scheme = "ssh".toList := by rw [plainUri, placeUrl_eq]
  unfold uriChars
  simp only [chars, authorityChars, host, scheme, login, portChars, port, path, query, fragment, Host.chars]
  simp

/-- A host that is logged in to over SSH and whose name is plain has a URI for every user name, port and
nickname. Its text is the scheme, the user name encoded for its place, the name of the host, the port in
decimal digits, and the nickname as a fragment, without tabs and line breaks; so the host has an identity
exactly where the nickname is not blank. -/
theorem uri?_text_of_plain (ssh : r.protocol = "ssh") (named : r.hostname ≠ "")
    (plain : ∀ c ∈ r.hostname.toList, isHostChar c = true) :
    (∃ u, r.uri? = some u ∧ u.text = String.ofList r.uriChars) ∧
      (r.identity?.isSome ↔ isBlank r.nickname = false) := by
  have made := uri?_plain ssh named plain
  refine ⟨⟨_, made, by rw [Url.text, chars_plainUri]⟩, ?_⟩
  rw [identity?, made, Option.bind_eq_bind, Option.bind_some, Identity.ofNickname?]
  cases isBlank r.nickname <;> simp

/-- Delimiters in user name and nickname are escaped, and a tab is left out of the fragment. -/
theorem uri?_text_of_delimiters :
    let r : Record := ⟨"a\tb#c d", "ssh", "x@y:z/?", "box-1.example_net", 2222, "", "", 0⟩
    r.protocol = "ssh" ∧ r.hostname ≠ "" ∧ r.hostname.toList.all isHostChar = true ∧
      (∃ u, r.uri? = some u ∧ u.text = "ssh://x%40y%3Az%2F%3F@box-1.example_net:2222/#ab#c%20d") ∧
      r.identity?.isSome := by
  intro r
  have plain : r.hostname.toList.all isHostChar = true := by decide
  obtain ⟨⟨u, made, text⟩, identity⟩ :=
    uri?_text_of_plain (r := r) rfl (by decide) (List.all_eq_true.mp plain)
  exact ⟨rfl, by decide, plain, ⟨u, made, text.trans (by decide +kernel)⟩, identity.mpr (by decide)⟩

end BridgeKeeper.Host.Record
