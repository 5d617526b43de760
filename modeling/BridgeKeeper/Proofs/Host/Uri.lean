import BridgeKeeper.Host.Record
import BridgeKeeper.Proofs.Url.Printing

/-!
# The identity of a host through its URI

The URI of a host is read from the name of the host and its port; then user name and nickname are set.
What its fragment decodes to is the nickname, unless that has tabs or line breaks, which the fragment
drops, or an escape, which is decoded although the nickname meant it as it stands.
-/
namespace BridgeKeeper.Host.Record

open Text Url

variable {r : Record} {u : Url}

/-- What stands behind the two slashes in the text from which a URI is made. -/
def placeChars (hostname : String) (port : UInt16) : List Char :=
  unbroken hostname.toList ++ ':' :: (decimal port.toNat ++ ['/'])

theorem parse_place (hostname : String) (port : UInt16) :
    Url.parse ("ssh" ++ "://" ++ hostname ++ ":" ++ numeral port.toNat ++ "/").toList =
      parseAuthority "ssh".toList (placeChars hostname port) := by
  have text : ("ssh" ++ "://" ++ hostname ++ ":" ++ numeral port.toNat ++ "/").toList =
      "ssh://".toList ++ (hostname.toList ++ ':' :: (decimal port.toNat ++ ['/'])) := by
    simp [numeral]
  have behind : unbroken (':' :: (decimal port.toNat ++ ['/'])) = ':' :: (decimal port.toNat ++ ['/']) :=
    unbroken_of_visible (List.forall_mem_cons.mpr ⟨rfl, List.forall_mem_append.mpr
      ⟨visible_decimal _, List.forall_mem_singleton.mpr rfl⟩⟩)
  rw [text, parse_ssh]
  · rw [unbroken, List.filter_append, ← unbroken, ← unbroken, behind, placeChars]
  · intro c last
    simp only [← List.cons_append, ← List.append_assoc, List.getLast?_concat, Option.some.injEq] at last
    rw [← last]
    rfl

theorem uri?_eq (ssh : r.protocol = "ssh") : r.uri? =
    (parseAuthority "ssh".toList (placeChars r.hostname r.port)).toOption.bind fun v =>
      (if r.username.isEmpty then some v else v.setUsername? r.username.toList).map
        (·.setFragment r.nickname.toList) := by
  rw [uri?, ssh, parse_place]
  refine congrArg (Option.bind _) (funext fun v => ?_)
  split
  · rfl
  · cases v.setUsername? r.username.toList <;> rfl

/-- A name that is a host as it stands makes an authority with the port and the slash behind it. -/
theorem sound_place {name : List Char} {host : Url.Host} (some : name ≠ [])
    (h : parseOpaqueHost name = .ok host) (port : UInt16) :
    Authority.Sound ⟨none, name, .some (decimal port.toNat), ['/']⟩ host := by
  refine ⟨fun _ none => (by cases none), h, ?_, Or.inl rfl, fun none => absurd none some⟩
  rintro _ ⟨⟩
  refine ⟨fun c => isDigit_of_mem_decimal, ?_⟩
  rw [decimalValue_decimal]
  exact Nat.le_of_lt_succ port.toNat_lt

theorem scheme_of_setUsername? {v : Url} {name : List Char} (h : u.setUsername? name = some v) :
    v.scheme = u.scheme := by
  rw [setUsername?] at h
  split at h
  · rw [← Option.some.inj h]
  · cases h

/-- The parts of a URI are encoded, and its fragment is made from the nickname. -/
theorem encoded_of_uri? (ssh : r.protocol = "ssh") (h : r.uri? = some u) :
    ∃ host, u.Encoded host ∧ u.scheme = "ssh".toList ∧
      u.fragment = some (Percent.encode Percent.inFragment (unbroken r.nickname.toList)) := by
  rw [uri?_eq ssh] at h
  obtain ⟨v, read, h⟩ := Option.bind_eq_some_iff.mp h
  obtain ⟨w, named, rfl⟩ := Option.map_eq_some_iff.mp h
  obtain ⟨a, host, sound, -, rfl⟩ := (Authority.parseAuthority_eq_ok_iff rfl).mp (toOption_eq_some_iff.mp read)
  have known : (a.url "ssh".toList host).Encoded host := sound.encoded
  split at named
  · rw [← Option.some.inj named]
    exact ⟨host, known.setFragment _, rfl, rfl⟩
  · have scheme := scheme_of_setUsername? named
    exact ⟨host, (known.setUsername? named).setFragment _, scheme, rfl⟩

theorem ofUri?_text (ssh : r.protocol = "ssh") (h : r.uri? = some u) : Identity.ofUri? u.text =
    (Utf8.decode? (Percent.decode (unbroken r.nickname.toList))).bind fun name =>
      Identity.ofNickname? (String.ofList name) := by
  obtain ⟨host, known, scheme, fragment⟩ := encoded_of_uri? ssh h
  obtain ⟨v, read, same⟩ := known.parse_chars scheme
  rw [Identity.ofUri?, Url.text, String.toList_ofList, read]
  simp only [Except.toOption, Option.bind_eq_bind, Option.bind_some, same, fragment,
    Percent.keeps_inFragment.decode_encode]

/-! ## What the fragment gives back -/

/-- Decoding gives a text back whose tabs and line breaks were dropped, if it had none, and no escape. -/
theorem decode_unbroken_eq_iff {s : List Char} : Percent.decode (unbroken s) = Utf8.encode s ↔
    (∀ c ∈ s, isTabOrBreak c = false) ∧ ¬ Percent.HasEscape s := by
  rw [← unbroken_eq_self_iff]
  rcases Percent.decode_cases (unbroken s) with ⟨without, whole⟩ | ⟨within, shorter⟩
  · rw [whole, Utf8.encode_inj]
    exact ⟨fun same => ⟨same, same ▸ without⟩, And.left⟩
  · have fewer : (Utf8.encode (unbroken s)).length ≤ (Utf8.encode s).length :=
      Utf8.length_encode_le List.filter_sublist
    constructor
    · intro decoded
      rw [decoded] at shorter
      exact absurd fewer (Nat.not_le_of_lt shorter)
    · rintro ⟨same, without⟩
      rw [same] at within
      exact absurd within without

/-- Only the bytes of a nickname that is not blank give its identity. -/
theorem ofNickname?_decode_eq_iff {nickname : String} {bytes : List UInt8}
    (shown : ¬ isBlank nickname = true) :
    ((Utf8.decode? bytes).bind fun name => Identity.ofNickname? (String.ofList name)) = some ⟨nickname⟩ ↔
      bytes = Utf8.encode nickname.toList := by
  constructor
  · intro same
    obtain ⟨name, decoded, named⟩ := Option.bind_eq_some_iff.mp same
    rw [Identity.ofNickname?] at named
    split at named
    · cases named
    · rw [← Identity.mk.inj (Option.some.inj named), String.toList_ofList]
      exact Utf8.decode?_eq_some_iff.mp decoded
  · rintro rfl
    rw [Utf8.decode?_encode, Option.bind_some, String.ofList_toList, Identity.ofNickname?, if_neg shown]

/-- What is left of a blank nickname names no host. -/
theorem ofNickname?_decode_of_blank {nickname : String} (blank : isBlank nickname = true) :
    ((Utf8.decode? (Percent.decode (unbroken nickname.toList))).bind fun name =>
      Identity.ofNickname? (String.ofList name)) = none := by
  have white : ∀ c ∈ unbroken nickname.toList, isWhite c = true := fun c there =>
    List.all_eq_true.mp blank c (List.mem_filter.mp there).1
  have without : ¬ Percent.HasEscape (unbroken nickname.toList) := fun escape =>
    absurd (white '%' escape.mem) (by decide)
  have decoded := ((Percent.decode_cases _).resolve_right fun other => without other.1).2
  rw [decoded, Utf8.decode?_encode, Option.bind_some, Identity.ofNickname?, if_pos]
  rwa [isBlank, String.toList_ofList, List.all_eq_true]

/-- The identity that the text of a URI names is the one of the host exactly where the nickname is blank, or
has neither tabs nor line breaks nor an escape. -/
theorem ofUri?_text_eq_identity?_iff (ssh : r.protocol = "ssh") (h : r.uri? = some u) :
    Identity.ofUri? u.text = r.identity? ↔ isBlank r.nickname = true ∨
      (∀ c ∈ r.nickname.toList, isTabOrBreak c = false) ∧ ¬ Percent.HasEscape r.nickname.toList := by
  have identity : r.identity? = Identity.ofNickname? r.nickname := by
    rw [identity?, h]
    rfl
  rw [ofUri?_text ssh h, identity, Identity.ofNickname?]
  by_cases blank : isBlank r.nickname = true
  · rw [if_pos blank, ofNickname?_decode_of_blank blank]
    exact iff_of_true rfl (Or.inl blank)
  · rw [if_neg blank, ofNickname?_decode_eq_iff blank, decode_unbroken_eq_iff, or_iff_right blank]

/-- A nickname with a space comes back; one with an escape does not. -/
theorem ofUri?_text_of_escape :
    (∃ u, (Record.mk "my box" "ssh" "alice" "10.0.0.5" 22 "" "" 0).uri? = some u ∧
      Identity.ofUri? u.text = some ⟨"my box"⟩) ∧
    ∃ u, (Record.mk "50%41" "ssh" "alice" "[::1]" 22 "" "" 0).uri? = some u ∧
      Identity.ofUri? u.text ≠ some ⟨"50%41"⟩ := by
  constructor
  · obtain ⟨u, h⟩ := Option.isSome_iff_exists.mp
      (show (Record.mk "my box" "ssh" "alice" "10.0.0.5" 22 "" "" 0).uri?.isSome = true by decide +kernel)
    have same := (ofUri?_text_eq_identity?_iff rfl h).mpr
      (Or.inr ⟨unbroken_eq_self_iff.mp rfl, fun escape => absurd escape.mem (by decide)⟩)
    exact ⟨u, h, same.trans (by decide +kernel)⟩
  · obtain ⟨u, h⟩ := Option.isSome_iff_exists.mp
      (show (Record.mk "50%41" "ssh" "alice" "[::1]" 22 "" "" 0).uri?.isSome = true by decide +kernel)
    refine ⟨u, h, fun same => ?_⟩
    have own : (Record.mk "50%41" "ssh" "alice" "[::1]" 22 "" "" 0).identity? = some ⟨"50%41"⟩ := by
      decide +kernel
    rcases (ofUri?_text_eq_identity?_iff rfl h).mp (same.trans own.symm) with blank | ⟨-, without⟩
    · exact absurd blank (by decide)
    · exact without ⟨"50".toList, '4', '1', [], by decide, by decide, by decide⟩

end BridgeKeeper.Host.Record
