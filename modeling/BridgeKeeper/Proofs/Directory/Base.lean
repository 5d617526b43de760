import BridgeKeeper.Proofs.Directory.Login
import BridgeKeeper.Proofs.Url.Web

/-!
# Requests under the base

Whatever the account and the password are, the settings are asked for at the host of the base, with its
query, and under its path, unless that is two slashes, of which none is left. Whether the base ends with a
slash makes no difference to what is requested.

The bases are those with an ASCII host. One with a host in another script makes the client of the base
that has the mapped name instead (see `Url.parseDomain`), and requests depend on the client alone.
-/
namespace BridgeKeeper.Directory.Client

open Text Url

variable {c c' : Client} {base : List (List Char)} {text : String} {u : Url}

/-! ## The base -/

theorem parse_of_ofUrl (made : ofUrl text = .ok c) : Url.parse text.toList = .ok c.base := by
  rw [ofUrl] at made
  split at made
  · cases made
  · next u read =>
    split at made
    · cases made
    · cases made
      exact read

theorem ofUrl_of_parse (read : Url.parse text.toList = .ok u) (listed : u.path = .segments base) :
    ofUrl text = .ok ⟨u⟩ := by
  have based : ¬ u.hasOpaquePath = true := by
    rw [Url.hasOpaquePath, listed]
    exact Bool.false_ne_true
  rw [ofUrl, read]
  exact if_neg based

/-- The base of a client of the web has a path of plain segments. -/
theorem base_of_ofUrl (made : ofUrl text = .ok c)
    (web : c.base.scheme = "http".toList ∨ c.base.scheme = "https".toList) :
    c.base.kind = .web ∧ ∃ parts, c.base.path = .segments parts ∧ parts ≠ [] ∧ ∀ p ∈ parts, IsPlain p := by
  have known : c.base.kind = .web := by
    rcases web with scheme | scheme <;> (rw [Url.kind, scheme]; decide)
  exact ⟨known, path_of_web (parse_of_ofUrl made) known⟩

theorem endpoint_eq (own : c.base.path = .segments base) (segments : List String) :
    c.endpoint segments = { c.base with
      path := .segments ((segments.map String.toList).foldl (appendSegment c.base.kind)
        (dropEmptyLast base)) } := by
  rw [endpoint, appendSegments, own]

/-! ## What is requested -/

def pathOf (target : String) : List Char := target.toList.takeWhile (· != '?')

def queryOf (target : String) : List Char := target.toList.dropWhile (· != '?')

def withoutSlash (s : List Char) : List Char := if s.getLast? = some '/' then s.dropLast else s

/-- A login may be taken out of a URL that is sent; nothing else is. -/
theorem sent_eq (r : Request) : ∃ name word, r.sent = { r.url with username := name, password := word } := by
  rw [Request.sent]
  split
  · exact ⟨_, _, rfl⟩
  · exact ⟨_, _, rfl⟩

theorem cut_target {parts : List (List Char)} (path : u.path = .segments parts)
    (plain : ∀ p ∈ parts, IsPlain p) :
    pathOf u.target = segmentChars parts ∧ queryOf u.target = queryChars u := by
  have inPath : ∀ c ∈ segmentChars parts, (c != '?') = true := by
    intro c there
    rw [bne_iff_ne]
    rcases mem_segmentChars there with rfl | ⟨p, within, there⟩
    · decide
    · exact (plain p within c there).2.1
  have stops : (queryChars u).takeWhile (· != '?') = [] ∧
      (queryChars u).dropWhile (· != '?') = queryChars u := by
    rw [queryChars]
    cases u.query <;> exact ⟨rfl, rfl⟩
  rw [pathOf, queryOf, target, String.toList_ofList, path, Path.chars, List.takeWhile_append_of_pos inPath,
    List.dropWhile_append_of_pos inPath, stops.1, stops.2, List.append_nil]
  exact ⟨rfl, rfl⟩

theorem withoutSlash_segmentChars (plain : ∀ p ∈ base, IsPlain p) :
    withoutSlash (segmentChars base) = segmentChars (withoutEmptyEnd base) := by
  rw [withoutSlash, withoutEmptyEnd]
  by_cases ends : base.getLast? = some []
  · obtain ⟨front, whole⟩ := List.getLast?_eq_some_iff.mp ends
    rw [if_pos ((getLast?_segmentChars plain).mpr ends), if_pos ends, whole, segmentChars_append,
      segmentChars_singleton, List.dropLast_concat, List.dropLast_concat]
  · rw [if_neg (mt (getLast?_segmentChars plain).mp ends), if_neg ends]

/-! ## Requests stay under the base -/

/-- The segments that neither account nor password can take away. -/
def firm : List (List Char) := ["get_settings".toList, "0.1".toList]

/-- The path under which the settings are asked for begins with the base and the segments that are firm. -/
theorem exists_settingsPath (own : c.base.path = .segments base) (web : c.base.kind = .web)
    (plain : ∀ p ∈ base, IsPlain p) (account password : String) :
    ∃ last others, c.settingsPath account password =
        .segments (ground (dropEmptyLast base) ++ firm ++ last :: others) ∧
      ∀ p ∈ ground (dropEmptyLast base) ++ firm ++ last :: others, IsPlain p := by
  have noFile : c.base.kind ≠ .file := by
    rw [web]
    decide
  have path := settingsPath_eq own noFile account password
  obtain ⟨back, some, whole⟩ := exists_foldl_appendSegment noFile (ground (dropEmptyLast base) ++ firm)
    (List.cons_ne_nil "1".toList []) [account.toList, password.toList]
  rw [List.foldl_cons, List.foldl_cons, List.foldl_nil, List.append_assoc] at whole
  have bare : ∀ p ∈ ground (dropEmptyLast base) ++ version, IsPlain p := by
    refine List.forall_mem_append.mpr ⟨fun p there => plain p ?_, by decide⟩
    have left : ground (dropEmptyLast base) ⊆ dropEmptyLast base := by
      rw [ground]
      split
      · exact List.nil_subset _
      · exact List.Subset.refl _
    have kept : dropEmptyLast base ⊆ base := by
      rw [dropEmptyLast]
      split
      · exact List.dropLast_subset _
      · exact List.Subset.refl _
    exact kept (left there)
  have each := isPlain_appendSegment web (isPlain_appendSegment web bare account.toList) password.toList
  obtain ⟨last, others, rfl⟩ := List.exists_cons_of_ne_nil some
  rw [show version = firm ++ ["1".toList] from rfl, whole] at each path
  exact ⟨last, others, path, each⟩

/-- What is left of the path of a base before the segments that are appended: the path less one slash at its
end, and nothing where it is two slashes. -/
def rootChars (base : Path) : List Char :=
  if base.chars = "//".toList then [] else withoutSlash base.chars

theorem segmentChars_ground (plain : ∀ p ∈ base, IsPlain p) :
    segmentChars (ground (dropEmptyLast base)) = rootChars (.segments base) := by
  have two : ∀ p ∈ [[], []], IsPlain p := by decide
  have slashes : Path.chars (.segments base) = "//".toList ↔ base = [[], []] := segmentChars_inj plain two
  rw [rootChars]
  by_cases double : base = [[], []]
  · rw [if_pos (slashes.mpr double), double]
    rfl
  · rw [if_neg (mt slashes.mp double), ground_dropEmptyLast double, Path.chars,
      withoutSlash_segmentChars plain]

/-- For every base of the web, every account and every password, the settings are asked for at the scheme,
host and port of the base and with its query. The path begins with what is left of the base's, then the name
of the request and its version; so it begins with the base's own less one slash, except where that is two
slashes. -/
theorem settings_requested_under_base_iff (made : ofUrl text = .ok c)
    (web : c.base.scheme = "http".toList ∨ c.base.scheme = "https".toList) (account password : String) :
    let u := (c.getSettings account password).request.sent
    u.scheme = c.base.scheme ∧ u.host = c.base.host ∧ u.port = c.base.port ∧
      queryOf u.target = queryChars c.base ∧
      (∃ others, pathOf u.target = rootChars c.base.path ++ "/get_settings/0.1/".toList ++ others) ∧
      (withoutSlash c.base.path.chars ++ "/get_settings".toList <+: pathOf u.target ↔
        c.base.path.chars ≠ "//".toList) := by
  intro u
  obtain ⟨known, base, own, -, plain⟩ := base_of_ofUrl made web
  obtain ⟨last, others, path, each⟩ := exists_settingsPath own known plain account password
  obtain ⟨name, word, sent⟩ := sent_eq (c.getSettings account password).request
  obtain ⟨inPath, inQuery⟩ := cut_target (u := u) path each
  have url : (c.getSettings account password).request.url = c.endpoint _ := rfl
  rw [endpoint_eq own] at url
  have query : queryChars u = queryChars c.base := by
    rw [queryChars, queryChars, show u = _ from sent, url]
  have whole : pathOf u.target = rootChars c.base.path ++ "/get_settings/0.1/".toList ++
      (last ++ segmentChars others) := by
    rw [inPath, segmentChars_append, segmentChars_append, segmentChars_ground plain, own]
    simp [segmentChars, firm]
  refine ⟨by rw [show u = _ from sent, url], by rw [show u = _ from sent, url],
    by rw [show u = _ from sent, url], inQuery.trans query, ⟨_, whole⟩, ?_⟩
  rw [whole, rootChars]
  by_cases slashes : c.base.path.chars = "//".toList
  · rw [if_pos slashes, slashes]
    refine iff_of_false (fun under => ?_) (not_not.mpr rfl)
    obtain ⟨t, same⟩ := under
    cases same
  · rw [if_neg slashes]
    refine iff_of_true ⟨"/0.1/".toList ++ (last ++ segmentChars others), ?_⟩ slashes
    simp

/-- Two texts that become dot segments take away a segment behind the base, and none of the base; a base of
two slashes is left out. -/
theorem settings_requested_past_two_slashes :
    (∃ c, ofUrl "http://127.0.0.1/api?key=1" = .ok c ∧ c.base.scheme = "http".toList ∧
      pathOf (c.getSettings "\t.." ".\n.").request.sent.target = "/api/get_settings/0.1/".toList ∧
      withoutSlash c.base.path.chars ++ "/get_settings".toList <+:
        pathOf (c.getSettings "\t.." ".\n.").request.sent.target) ∧
    ∃ c, ofUrl "http://127.0.0.1//" = .ok c ∧ c.base.scheme = "http".toList ∧
      pathOf (c.getSettings "bob" "pw").request.sent.target = "/get_settings/0.1/1/bob/pw".toList ∧
      ¬ withoutSlash c.base.path.chars ++ "/get_settings".toList <+:
        pathOf (c.getSettings "bob" "pw").request.sent.target := by
  constructor
  · let c : Client := ⟨⟨"http".toList, [], [], some (.ipv4 2130706433), none, .segments ["api".toList],
      some "key=1".toList, none⟩⟩
    have made : ofUrl "http://127.0.0.1/api?key=1" = .ok c := rfl
    obtain ⟨-, -, -, -, -, under⟩ := settings_requested_under_base_iff made (Or.inl rfl) "\t.." ".\n."
    exact ⟨c, made, rfl, by decide +kernel, under.mpr (by decide)⟩
  · let c : Client := ⟨⟨"http".toList, [], [], some (.ipv4 2130706433), none, .segments [[], []], none, none⟩⟩
    have made : ofUrl "http://127.0.0.1//" = .ok c := rfl
    obtain ⟨-, -, -, -, -, under⟩ := settings_requested_under_base_iff made (Or.inl rfl) "bob" "pw"
    exact ⟨c, made, rfl, by decide +kernel, fun kept => under.mp kept rfl⟩

/-! ## A slash at the end of the base -/

def slashed (text : String) : String := String.ofList (withSlash (trimmed text.toList))

/-- Two URLs that differ in one slash at the end of the path only. -/
structure Slashed (u v : Url) : Prop where
  path : v.path.chars = u.path.chars ++ ['/']
  others : v = { u with path := v.path }

/-- The path with the slash has one empty segment more. -/
theorem Slashed.eq {u v : Url} {parts parts' : List (List Char)} (h : Slashed u v)
    (own : u.path = .segments parts) (plain : ∀ p ∈ parts, IsPlain p)
    (own' : v.path = .segments parts') (plain' : ∀ p ∈ parts', IsPlain p) :
    v = { u with path := .segments (parts ++ [[]]) } := by
  have longer : ∀ p ∈ parts ++ [[]], IsPlain p :=
    List.forall_mem_append.mpr ⟨plain, List.forall_mem_singleton.mpr isPlain_nil⟩
  have text : segmentChars parts' = segmentChars (parts ++ [[]]) := by
    rw [segmentChars_append, segmentChars_singleton]
    have chars := h.path
    rwa [own, own'] at chars
  rw [h.others, own', (segmentChars_inj plain' longer).mp text]

/-- The empty segment at the end is dropped before segments are appended. -/
theorem endpoint_of_slash (own : c.base.path = .segments base) (some : base ≠ [])
    (unended : base.getLast? ≠ Option.some [])
    (slash : c'.base = { c.base with path := .segments (base ++ [[]]) }) (segments : List String) :
    c'.endpoint segments = c.endpoint segments := by
  have own' : c'.base.path = .segments (base ++ [[]]) := by rw [slash]
  have kind : c'.base.kind = c.base.kind := by rw [Url.kind, Url.kind, slash]
  have dropped : dropEmptyLast (base ++ [[]]) = base := by
    rw [dropEmptyLast, if_pos, List.dropLast_concat]
    refine ⟨fun root => some ?_, List.getLast?_concat⟩
    exact (List.append_inj' root rfl).1
  have kept : dropEmptyLast base = base := by
    rw [dropEmptyLast, if_neg fun both => unended both.2]
  rw [endpoint_eq own, endpoint_eq own', dropped, kept, kind, slash]

/-- A base of the web whose path does not end with a slash can be given with one, and every client under such
a base makes the same requests: to check a port, for the settings, and with a report. -/
theorem slash_at_end_irrelevant (made : ofUrl text = .ok c)
    (web : c.base.scheme = "http".toList ∨ c.base.scheme = "https".toList)
    (unended : c.base.path.chars.getLast? ≠ some '/') :
    (∃ c', ofUrl (slashed text) = .ok c' ∧ Slashed c.base c'.base) ∧
    ∀ text' c', ofUrl text' = .ok c' → Slashed c.base c'.base →
      (∀ port, (c'.proxyTest port).request = (c.proxyTest port).request) ∧
      (∀ account password, (c'.getSettings account password).request =
        (c.getSettings account password).request) ∧
      ∀ report, (c'.logError report).request = (c.logError report).request := by
  obtain ⟨known, base, own, some, plain⟩ := base_of_ofUrl made web
  have last : base.getLast? ≠ Option.some [] := by
    rw [own] at unended
    exact mt (getLast?_segmentChars plain).mpr unended
  constructor
  · have read := parse_withSlash (parse_of_ofUrl made) known own last
    rw [← String.toList_ofList (l := withSlash _)] at read
    refine ⟨_, ofUrl_of_parse read rfl, ?_, rfl⟩
    rw [own, Path.chars, Path.chars, segmentChars_append, segmentChars_singleton]
  · intro text' c' made' slash
    have web' : c'.base.scheme = "http".toList ∨ c'.base.scheme = "https".toList := by
      rwa [slash.others]
    obtain ⟨-, base', own', -, plain'⟩ := base_of_ofUrl made' web'
    have same := endpoint_of_slash own some last (slash.eq own plain own' plain')
    exact ⟨fun port => congrArg (Request.mk · none) (same _),
      fun account password => congrArg (Request.mk · none) (same _),
      fun report => congrArg (Request.mk · _) (same _)⟩

/-- The slash stands before the query, and an account that is resolved finds the same segments. -/
theorem slash_at_end_irrelevant_before_query :
    ∃ c c', ofUrl "http://127.0.0.1/api/v1?key=a/b" = .ok c ∧ c.base.scheme = "http".toList ∧
      c.base.path.chars.getLast? ≠ some '/' ∧ ofUrl "http://127.0.0.1/api/v1/?key=a/b" = .ok c' ∧
      Slashed c.base c'.base ∧
      (c'.getSettings "\t.." "p/w").request = (c.getSettings "\t.." "p/w").request := by
  let c : Client := ⟨⟨"http".toList, [], [], some (.ipv4 2130706433), none,
    .segments ["api".toList, "v1".toList], some "key=a/b".toList, none⟩⟩
  have made : ofUrl "http://127.0.0.1/api/v1?key=a/b" = .ok c := rfl
  obtain ⟨⟨c', made', slash⟩, same⟩ := slash_at_end_irrelevant made (Or.inl rfl) (by decide)
  exact ⟨c, c', made, rfl, by decide, made', slash, (same _ c' made' slash).2.1 "\t.." "p/w"⟩

end BridgeKeeper.Directory.Client
