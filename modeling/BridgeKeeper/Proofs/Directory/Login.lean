import BridgeKeeper.Directory.Client
import BridgeKeeper.Proofs.Url.Appending

/-!
# What a request for the settings of an account names

Account and password are segments of the path that is requested. They can be read off it as long as
neither is a dot segment or has tabs or line breaks; other texts are altered or left out, so that what
stands in the place of the account may be the password. The host of the base is given in ASCII.
-/
namespace BridgeKeeper.Directory.Client

open Text Url

variable {c : Client} {k : SchemeKind} {base : List (List Char)}

def withoutEmptyEnd (parts : List (List Char)) : List (List Char) :=
  if parts.getLast? = some [] then parts.dropLast else parts

/-- A path that consists of the base and five segments behind it, of which the last two stand for the
account and the password. -/
def NamesLogin (base : List (List Char)) (account password : String) (path : Path) : Prop :=
  ∃ a p, path = .segments (withoutEmptyEnd base ++
      ["get_settings".toList, "0.1".toList, "1".toList, a, p]) ∧
    Percent.decode a = Utf8.encode account.toList ∧ Percent.decode p = Utf8.encode password.toList

def settingsPath (c : Client) (account password : String) : Path :=
  (c.getSettings account password).request.sent.path

theorem sent_path (r : Request) : r.sent.path = r.url.path := by
  rw [Request.sent]
  split <;> rfl

/-! ## The base -/

theorem ground_dropEmptyLast (other : base ≠ [[], []]) :
    ground (dropEmptyLast base) = withoutEmptyEnd base := by
  rw [dropEmptyLast, withoutEmptyEnd]
  by_cases root : base = [[]]
  · rw [root]
    rfl
  by_cases ends : base.getLast? = some []
  · rw [if_pos ⟨root, ends⟩, if_pos ends, ground, if_neg]
    intro single
    obtain ⟨front, whole⟩ := List.getLast?_eq_some_iff.mp ends
    rw [whole, List.dropLast_concat] at single
    rw [whole, single] at other
    exact other rfl
  · rw [if_neg fun both => ends both.2, if_neg ends, ground, if_neg root]

theorem length_ground_dropEmptyLast (base : List (List Char)) :
    (ground (dropEmptyLast base)).length ≤ (withoutEmptyEnd base).length := by
  by_cases other : base = [[], []]
  · subst other
    decide
  · exact Nat.le_of_eq (congrArg List.length (ground_dropEmptyLast other))

/-! ## The segments behind the base -/

def version : List (List Char) := ["get_settings".toList, "0.1".toList, "1".toList]

theorem two_le_behind_version (parts others : List (List Char)) :
    2 ≤ (parts ++ version ++ others).length := by
  have long : version.length = 3 := rfl
  rw [List.length_append, List.length_append, long]
  omega

theorem foldl_version (noFile : k ≠ .file) (parts : List (List Char)) :
    version.foldl (appendSegment k) parts = ground parts ++ version := by
  have step (parts : List (List Char)) (text : List Char) (intact : Intact text)
      (same : Percent.encode (segmentSet k) text = text) :
      appendSegment k parts text = ground parts ++ [text] := by
    rw [appendSegment_of_intact noFile parts intact, same]
  have behind (parts : List (List Char)) {text : List Char} (some : text ≠ []) :
      ground (parts ++ [text]) = parts ++ [text] := by
    rw [ground, if_neg]
    intro root
    have last := congrArg List.getLast? root
    rw [List.getLast?_concat] at last
    exact some (Option.some.inj last)
  simp only [version, List.foldl_cons, List.foldl_nil]
  rw [step parts "get_settings".toList (by decide) (by cases k <;> rfl),
    step _ "0.1".toList (by decide) (by cases k <;> rfl),
    step _ "1".toList (by decide) (by cases k <;> rfl), behind _ (by decide),
    behind _ (by decide)]
  simp only [List.append_assoc, List.cons_append, List.nil_append]

theorem settingsPath_eq (own : c.base.path = .segments base) (noFile : c.base.kind ≠ .file)
    (account password : String) : c.settingsPath account password =
      .segments (appendSegment c.base.kind (appendSegment c.base.kind
        (ground (dropEmptyLast base) ++ version) account.toList) password.toList) := by
  rw [settingsPath, sent_path, getSettings, endpoint, appendSegments, own, ← foldl_version noFile]
  rfl

/-- The path that names both, with the two segments at its end set apart. -/
theorem namesLogin_segments_iff {account password : String} {parts : List (List Char)} :
    NamesLogin base account password (.segments parts) ↔
      ∃ a p, parts = withoutEmptyEnd base ++ version ++ [a] ++ [p] ∧
        Percent.decode a = Utf8.encode account.toList ∧ Percent.decode p = Utf8.encode password.toList := by
  simp only [NamesLogin, version, Path.segments.injEq, List.append_assoc, List.cons_append, List.nil_append]

/-- A path that names both has all five segments, so that neither text was left out or altered. -/
theorem intact_of_namesLogin (own : c.base.path = .segments base) (noFile : c.base.kind ≠ .file)
    {account password : String} (names : NamesLogin base account password (c.settingsPath account password)) :
    Intact account.toList ∧ Intact password.toList ∧ base ≠ [[], []] := by
  rw [settingsPath_eq own noFile, namesLogin_segments_iff] at names
  obtain ⟨a, p, whole, account', password'⟩ := names
  have first := length_ground_dropEmptyLast base
  have second := length_appendSegment noFile (ground (dropEmptyLast base) ++ version) account.toList
  have third := length_appendSegment noFile (appendSegment c.base.kind
    (ground (dropEmptyLast base) ++ version) account.toList) password.toList
  have long := two_le_behind_version (ground (dropEmptyLast base)) []
  rw [whole] at third
  simp only [List.length_append, List.length_singleton, List.length_nil] at second third long
  obtain ⟨intact, same⟩ := intact_of_appendSegment noFile whole
    (by simp only [List.length_append, List.length_singleton]; omega)
    (ne_root_of_length (by omega)) password'
  obtain ⟨intact', same'⟩ := intact_of_appendSegment noFile same.symm
    (by simp only [List.length_append]; omega)
    (ne_root_of_length (by simp only [List.length_append]; omega)) account'
  refine ⟨intact', intact, ?_⟩
  rintro rfl
  exact absurd (congrArg List.length same') (by decide)

theorem namesLogin_of_intact (own : c.base.path = .segments base) (noFile : c.base.kind ≠ .file)
    {account password : String} (intact : Intact account.toList) (intact' : Intact password.toList)
    (other : base ≠ [[], []]) : NamesLogin base account password (c.settingsPath account password) := by
  rw [settingsPath_eq own noFile, namesLogin_segments_iff]
  refine ⟨_, _, ?_, decode_segment c.base.kind _, decode_segment c.base.kind _⟩
  have bare := ground_of_length (two_le_behind_version (withoutEmptyEnd base) [])
  rw [List.append_nil] at bare
  rw [ground_dropEmptyLast other, appendSegment_of_intact noFile _ intact,
    appendSegment_of_intact noFile _ intact', bare, ground_of_length (two_le_behind_version _ _)]

/-- Which account and password the path names. -/
theorem namesLogin_iff (own : c.base.path = .segments base) (noFile : c.base.kind ≠ .file)
    (account password : String) :
    NamesLogin base account password (c.settingsPath account password) ↔
      Intact account.toList ∧ Intact password.toList ∧ base ≠ [[], []] := by
  constructor
  · exact intact_of_namesLogin own noFile
  · rintro ⟨intact, intact', other⟩
    exact namesLogin_of_intact own noFile intact intact' other

/-! ## Different logins -/

theorem NamesLogin.inj {account password account' password' : String} {path : Path}
    (h : NamesLogin base account password path) (h' : NamesLogin base account' password' path) :
    account = account' ∧ password = password' := by
  obtain ⟨a, p, whole, first, second⟩ := h
  obtain ⟨a', p', same, first', second'⟩ := h'
  rw [whole, Path.segments.injEq, List.append_cancel_left_eq] at same
  simp only [List.cons.injEq, true_and, and_true] at same
  obtain ⟨rfl, rfl⟩ := same
  exact ⟨String.toList_inj.mp (Utf8.encode_inj.mp (first.symm.trans first')),
    String.toList_inj.mp (Utf8.encode_inj.mp (second.symm.trans second'))⟩

/-! ## The request for the settings -/

theorem path_of_ofUrl {text : String} (made : ofUrl text = .ok c) :
    ∃ base, c.base.path = .segments base := by
  rw [ofUrl] at made
  split at made
  · cases made
  · next u _ =>
    split at made
    · cases made
    · next listed =>
      cases made
      rw [Url.hasOpaquePath] at listed
      split at listed
      · exact absurd rfl listed
      · next parts path => exact ⟨parts, path⟩

/-- A dot in the place of either is passed over, so that the other stands alone behind the version. -/
theorem settingsPath_dots (own : c.base.path = .segments base) (noFile : c.base.kind ≠ .file)
    {dots : String} (h : IsDots dots.toList) (other : String) :
    c.settingsPath dots other = c.settingsPath other dots := by
  rw [settingsPath_eq own noFile, settingsPath_eq own noFile, appendSegment_of_dots h,
    appendSegment_of_dots h]

/-- The path that a client asks for the settings under is the one of its base with five segments, the last
two for the account and the password, exactly where both can be segments as they stand and the base has not
only empty ones. Among those, no two logins are asked for under the same path; a dot in the place of
either is left out, and which of the two it was cannot be told. -/
theorem settings_path_names_login_iff {text : String} (made : ofUrl text = .ok c)
    (web : c.base.scheme = "http".toList ∨ c.base.scheme = "https".toList) :
    ∃ base, c.base.path = .segments base ∧
      (∀ account password, NamesLogin base account password (c.settingsPath account password) ↔
        Intact account.toList ∧ Intact password.toList ∧ base ≠ [[], []]) ∧
      (∀ account password account' password', Intact account.toList ∧ Intact password.toList →
        Intact account'.toList ∧ Intact password'.toList → base ≠ [[], []] →
        c.settingsPath account password = c.settingsPath account' password' →
        account = account' ∧ password = password') ∧
      ∀ dots other : String, IsDots dots.toList →
        c.settingsPath dots other = c.settingsPath other dots := by
  obtain ⟨base, own⟩ := path_of_ofUrl made
  have noFile : c.base.kind ≠ .file := by
    rcases web with scheme | scheme <;> (rw [Url.kind, scheme]; decide)
  refine ⟨base, own, namesLogin_iff own noFile, ?_, fun _ other h => settingsPath_dots own noFile h other⟩
  rintro account password account' password' ⟨intact, intact'⟩ ⟨other, other'⟩ ne same
  have names := (namesLogin_iff own noFile account password).mpr ⟨intact, intact', ne⟩
  have names' := (namesLogin_iff own noFile account' password').mpr ⟨other, other', ne⟩
  rw [← same] at names'
  exact names.inj names'

/-- With a dot for the account, the password stands in its place. -/
theorem settings_path_of_dot_account : ∃ c, ofUrl "http://127.0.0.1/ws/1/proxy/" = .ok c ∧
    c.base.scheme = "http".toList ∧ c.settingsPath "." "pw" = c.settingsPath "pw" "." ∧
    c.settingsPath "." "pw" = .segments (["ws", "1", "proxy", "get_settings", "0.1", "1", "pw"].map
      String.toList) ∧
    ¬ NamesLogin (["ws", "1", "proxy", ""].map String.toList) "." "pw" (c.settingsPath "." "pw") := by
  let base := ["ws", "1", "proxy", ""].map String.toList
  let c : Client := ⟨⟨"http".toList, [], [], some (.ipv4 2130706433), none, .segments base, none, none⟩⟩
  have made : ofUrl "http://127.0.0.1/ws/1/proxy/" = .ok c := rfl
  obtain ⟨found, own, names, -, dots⟩ := settings_path_names_login_iff made (Or.inl rfl)
  obtain rfl : base = found := Path.segments.inj own
  refine ⟨c, made, rfl, dots "." "pw" (by decide), by decide +kernel, fun named => ?_⟩
  exact ((names "." "pw").mp named).1.noDots (by decide)

end BridgeKeeper.Directory.Client
