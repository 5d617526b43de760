import BridgeKeeper.Proofs.Host.Uri

/-!
# Hosts that have an identity

A host with a user has a URI exactly where its name and its port make an authority of a URL with a host:
before the name there may be a login, behind it a port and more. A host that is made from credentials is
named after its user, and so has an identity then.
-/
namespace BridgeKeeper.Host.Record

open Text Url

variable {r : Record} {c : Credentials} {hostname : String} {port : UInt16} {host : Url.Host}

/-- The name of the host with the port and a slash behind it is the authority of a URL with a host: an
optional login up to the last `@`, a name without forbidden characters or an address in brackets, an
optional port, and what begins with a slash, a question mark or a hash, or behind a port with a
backslash. -/
def NamesPlace (hostname : String) (port : UInt16) : Prop :=
  ∃ (a : Authority) (host : Url.Host), a.Sound host ∧ a.name ≠ [] ∧ a.chars = placeChars hostname port

/-- A name that is a host as it stands makes such an authority. -/
theorem namesPlace_of_host (some : unbroken hostname.toList ≠ [])
    (h : parseOpaqueHost (unbroken hostname.toList) = .ok host) (port : UInt16) :
    NamesPlace hostname port :=
  ⟨⟨none, unbroken hostname.toList, .some (decimal port.toNat), ['/']⟩, host, sound_place some h port, some, rfl⟩

theorem takesLogin_iff {a : Authority} (h : a.Sound host) :
    (a.url "ssh".toList host).takesLogin = true ↔ a.name ≠ [] := by
  have takes : (a.url "ssh".toList host).takesLogin = true ↔ host ≠ .name [] := by
    simp [takesLogin, Authority.url]
  rw [takes]
  refine not_congr ⟨?_, fun none => ?_⟩
  · rintro rfl
    exact eq_nil_of_parseOpaqueHost h.name
  · have read := h.name
    rw [none] at read
    exact (Except.ok.inj read).symm

/-- A host with a user has a URI exactly where its name and its port make an authority with a host. -/
theorem uri?_isSome_iff (ssh : r.protocol = "ssh") (user : r.username ≠ "") :
    r.uri?.isSome ↔ NamesPlace r.hostname r.port := by
  have named : ¬ r.username.isEmpty = true := by simpa using user
  rw [uri?_eq ssh]
  simp only [if_neg named, setUsername?]
  constructor
  · intro made
    obtain ⟨u, made⟩ := Option.isSome_iff_exists.mp made
    obtain ⟨v, read, made⟩ := Option.bind_eq_some_iff.mp made
    obtain ⟨a, host, sound, whole, rfl⟩ :=
      (Authority.parseAuthority_eq_ok_iff rfl).mp (toOption_eq_some_iff.mp read)
    refine ⟨a, host, sound, (takesLogin_iff sound).mp ?_, whole⟩
    by_contra refused
    rw [if_neg refused] at made
    cases made
  · rintro ⟨a, host, sound, some, whole⟩
    rw [← whole, toOption_eq_some_iff.mpr (sound.parse rfl), Option.bind_some,
      if_pos ((takesLogin_iff sound).mpr some)]
    rfl

theorem isBlank_displayName (user : r.username ≠ "") (host : r.hostname ≠ "") :
    isBlank r.displayName = false := by
  have at_mem : '@' ∈ r.displayName.toList := by
    rw [displayName, if_neg (by simpa using ⟨user, host⟩)]
    split <;> simp
  refine eq_false_of_ne_true fun blank => ?_
  exact absurd (List.all_eq_true.mp blank '@' at_mem) (by decide)

theorem host_ne_of_check (passes : c.check = .ok ()) : c.host ≠ "" := by
  intro empty
  rw [Credentials.check, empty] at passes
  cases passes

theorem identity?_provisioned (passes : c.check = .ok ()) (user : c.user ≠ "")
    (names : NamesPlace c.host c.port) (account : String) :
    (provisioned c account).identity? = some ⟨(provisioned c account).nickname⟩ := by
  obtain ⟨u, made⟩ := Option.isSome_iff_exists.mp
    ((uri?_isSome_iff (r := provisioned c account) rfl user).mpr names)
  have shown : ¬ isBlank (provisioned c account).nickname = true := by
    rw [Bool.not_eq_true]
    exact isBlank_displayName (r := provisioned c account) user (host_ne_of_check passes)
  rw [identity?, made]
  exact if_neg shown

end BridgeKeeper.Host.Record
