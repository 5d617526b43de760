import BridgeKeeper.Proofs.Url.Printing

/-!
# URLs of the web

The authority of a web URL is read on its own, whatever follows it, and its path is made of plain segments.
A text in which one slash more stands at the end of the path is read as the same URL with an empty segment
more, unless the path ends with a slash before.
-/
namespace BridgeKeeper.Url

open Text

variable {u : Url} {scheme front rest s r : List Char} {c : Char}

/-! ## The authority -/

structure Site where
  login : List Char × List Char
  host : Host
  port : Option Nat

def readSite (scheme front : List Char) : Except ParseError Site := do
  let (login, place) := (cutLogin front).elim (([], []), front) fun cut => (readLogin cut.1, cut.2)
  if (cutHost false place).1.isEmpty then throw .emptyHost
  let host ← parseDomain (cutHost false place).1
  let port ← readPort scheme (cutHost false place).2
  return ⟨login, host, port⟩

def Site.url (x : Site) (scheme rest : List Char) : Url where
  scheme := scheme
  username := x.login.1
  password := x.login.2
  host := some x.host
  port := x.port
  path := .segments (readSegments .web ((cutPath rest).1.drop 1))
  query := (readEnd .web (cutPath rest).2).1
  fragment := (readEnd .web (cutPath rest).2).2

theorem no_backslash {place : List Char} (plain : ∀ c ∈ place, endsAuthority .web c = false) :
    (cutHost false place).2.takeWhile (· != '\\') = (cutHost false place).2 ∧
      (cutHost false place).2.dropWhile (· != '\\') = [] := by
  have whole := Authority.cutHost_append_eq false place
  have inPort : ∀ c ∈ (cutHost false place).2, (c != '\\') = true := by
    intro c there
    rw [bne_iff_ne]
    rintro rfl
    cases plain _ (whole ▸ List.mem_append_right _ there)
  rw [← List.append_nil (cutHost false place).2, List.takeWhile_append_of_pos inPort,
    List.dropWhile_append_of_pos inPort]
  exact ⟨rfl, rfl⟩

/-- An authority is a place, or a login and a place. -/
theorem login_or_place (inside : ∀ c ∈ front, endsAuthority .web c = false) :
    ∃ place, (cutLogin front = none ∧ place = front ∨ ∃ l, cutLogin front = some (l, place)) ∧
      ∀ c ∈ place, endsAuthority .web c = false := by
  rcases login_cases front with noAt | ⟨l, place, rfl, noAt⟩
  · exact ⟨front, Or.inl ⟨cutLogin_of_not_mem noAt, rfl⟩, inside⟩
  · exact ⟨place, Or.inr ⟨l, cutLogin_append l noAt⟩,
      (List.forall_mem_cons.mp (List.forall_mem_append.mp inside).2).2⟩

theorem parseAuthority_web (web : schemeKind scheme = .web)
    (inside : ∀ c ∈ front, endsAuthority .web c = false)
    (stop : rest.takeWhile (fun c => !endsAuthority .web c) = []) :
    parseAuthority scheme (front ++ rest) = (readSite scheme front).map (·.url scheme rest) := by
  have plain : ∀ c ∈ front, (!endsAuthority .web c) = true := fun c there => by rw [inside c there]; rfl
  have behind : rest.dropWhile (fun c => !endsAuthority .web c) = rest := by
    have whole := List.takeWhile_append_dropWhile (p := fun c => !endsAuthority .web c) (l := rest)
    rwa [stop, List.nil_append] at whole
  simp only [parseAuthority, web, List.takeWhile_append_of_pos plain, List.dropWhile_append_of_pos plain,
    stop, behind, List.append_nil, readSite]
  obtain ⟨place, cut, inPlace⟩ := login_or_place inside
  obtain ⟨port, backslash⟩ := no_backslash inPlace
  by_cases none : place = []
  · subst none
    rcases cut with ⟨cut, rfl⟩ | ⟨l, cut⟩
    · simp only [cut]
      rfl
    · simp only [cut]
      cases (l.isEmpty && [].isEmpty && !rest.isEmpty : Bool) <;> rfl
  · have some : place.isEmpty = false := List.isEmpty_eq_false_iff.mpr none
    rcases cut with ⟨cut, rfl⟩ | ⟨l, cut⟩
    all_goals
      simp only [cut, Option.elim_none, Option.elim_some, some, Bool.and_false, Bool.false_and,
        Bool.false_eq_true, if_false, pure_bind, port, backslash, List.nil_append]
      cases (cutHost false place).1.isEmpty with
      | true => rfl
      | false =>
        simp only [Bool.false_and, Bool.and_false, Bool.false_eq_true, if_false, decide_true, if_true]
        cases parseDomain (cutHost false place).1 with
        | error e => rfl
        | ok host => cases readPort scheme (cutHost false place).2 <;> rfl

/-! ## The text of a URL -/

theorem scheme_of_parseFile (h : parseFile s = .ok u) : u.scheme = "file".toList := by
  have scheme_fileUrl (host : Host) (s : List Char) : (fileUrl host s).scheme = "file".toList := rfl
  unfold parseFile at h
  split at h
  · rw [← Except.ok.inj h, scheme_fileUrl]
  · split at h
    · rw [← Except.ok.inj h, scheme_fileUrl]
    · dsimp only at h
      split at h
      · rw [← Except.ok.inj h, scheme_fileUrl]
      · split at h
        · rw [← Except.ok.inj h, scheme_fileUrl]
        · obtain ⟨host, -, h⟩ := bind_eq_ok_iff.mp h
          split at h <;> rw [← Except.ok.inj h, scheme_fileUrl]

theorem scheme_of_parseOther (other : schemeKind scheme = .other) (h : parseOther scheme s = .ok u) :
    u.scheme = scheme := by
  unfold parseOther at h
  split at h
  · obtain ⟨a, host, -, -, rfl⟩ := (Authority.parseAuthority_eq_ok_iff other).mp h
    rfl
  · rw [← Except.ok.inj h]

/-- A text that is read as a web URL has an authority that is read, and the URL is made from it and from
what follows. -/
theorem exists_site (h : parse s = .ok u) (web : u.kind = .web) :
    ∃ r front rest x, cutScheme (trimmed s) = some (u.scheme, r) ∧
      (unbroken r).dropWhile (isSlash .web) = front ++ rest ∧
      (∀ c ∈ front, endsAuthority .web c = false) ∧
      rest.takeWhile (fun c => !endsAuthority .web c) = [] ∧
      readSite u.scheme front = .ok x ∧ x.url u.scheme rest = u := by
  rw [parse] at h
  split at h
  · cases h
  · next scheme r cut =>
    split at h
    · rw [kind, scheme_of_parseFile h] at web
      cases web
    · next known =>
      generalize behind : (unbroken r).dropWhile (isSlash .web) = t at h
      have whole : t.takeWhile (fun c => !endsAuthority .web c) ++
          t.dropWhile (fun c => !endsAuthority .web c) = t := List.takeWhile_append_dropWhile
      have inside : ∀ c ∈ t.takeWhile (fun c => !endsAuthority .web c), endsAuthority .web c = false := by
        intro c there
        have own := List.mem_takeWhile_imp there
        exact (Bool.not_eq_true' _).mp own
      have stop := Authority.takeWhile_dropWhile (fun c => !endsAuthority .web c) t
      rw [← whole, parseAuthority_web known inside stop] at h
      obtain ⟨x, read, rfl⟩ := map_eq_ok_iff.mp h
      exact ⟨r, _, _, x, cut, behind.trans whole.symm, inside, stop, read, rfl⟩
    · next other =>
      rw [kind, scheme_of_parseOther other h, other] at web
      cases web

theorem parse_of_site {x : Site} (cut : cutScheme (trimmed s) = some (scheme, r))
    (web : schemeKind scheme = .web) (behind : (unbroken r).dropWhile (isSlash .web) = front ++ rest)
    (inside : ∀ c ∈ front, endsAuthority .web c = false)
    (stop : rest.takeWhile (fun c => !endsAuthority .web c) = []) (read : readSite scheme front = .ok x) :
    parse s = .ok (x.url scheme rest) := by
  rw [parse, cut]
  simp only [web]
  rw [behind, parseAuthority_web web inside stop, read]
  rfl

/-- A web URL has a path of plain segments. -/
theorem path_of_web (h : parse s = .ok u) (web : u.kind = .web) :
    ∃ parts, u.path = .segments parts ∧ parts ≠ [] ∧ ∀ p ∈ parts, IsPlain p := by
  obtain ⟨-, -, rest, x, -, -, -, -, -, whole⟩ := exists_site h web
  rw [← whole]
  exact ⟨_, rfl, readSegments_ne_nil (by decide) _, isPlain_readSegments (by decide) _⟩

/-! ## A slash at the end of the path -/

def withSlash (s : List Char) : List Char := (cutPath s).1 ++ '/' :: (cutPath s).2

def isPathChar (c : Char) : Bool := c != '?' && c != '#'

theorem isPathChar_of_mem_cutPath (s : List Char) : ∀ c ∈ (cutPath s).1, isPathChar c = true :=
  fun _ there => List.mem_takeWhile_imp there

/-- Where a kind of characters has neither a question mark nor a hash, it ends no path. -/
theorem isPathChar_of {p : Char → Bool} (h : p c = true) (question : p '?' = false) (hash : p '#' = false) :
    isPathChar c = true := by
  rw [isPathChar, Bool.and_eq_true, bne_iff_ne, bne_iff_ne]
  constructor
  · rintro rfl
    exact absurd (question.symm.trans h) Bool.false_ne_true
  · rintro rfl
    exact absurd (hash.symm.trans h) Bool.false_ne_true

theorem cutPath_snd_stops (s : List Char) : (cutPath s).2.takeWhile isPathChar = [] :=
  Authority.takeWhile_dropWhile isPathChar s

theorem cutPath_eq_append (s : List Char) : (cutPath s).1 ++ (cutPath s).2 = s :=
  List.takeWhile_append_dropWhile

theorem withSlash_append {p : List Char} (plain : ∀ c ∈ p, isPathChar c = true) (s : List Char) :
    withSlash (p ++ s) = p ++ withSlash s := by
  have first : (cutPath (p ++ s)).1 = p ++ (cutPath s).1 := List.takeWhile_append_of_pos plain
  have second : (cutPath (p ++ s)).2 = (cutPath s).2 := List.dropWhile_append_of_pos plain
  rw [withSlash, first, second, List.append_assoc]
  rfl

theorem cutPath_withSlash (s : List Char) :
    cutPath (withSlash s) = ((cutPath s).1 ++ ['/'], (cutPath s).2) := by
  have plain : ∀ c ∈ (cutPath s).1 ++ ['/'], isPathChar c = true :=
    List.forall_mem_append.mpr ⟨isPathChar_of_mem_cutPath s, List.forall_mem_singleton.mpr rfl⟩
  rw [withSlash, List.append_cons, cutPath_append plain (cutPath_snd_stops s)]

/-- Tabs and line breaks are dropped as well before the slash is put in as after. -/
theorem unbroken_withSlash (s : List Char) : unbroken (withSlash s) = withSlash (unbroken s) := by
  have plain : ∀ c ∈ unbroken (cutPath s).1, isPathChar c = true :=
    fun c there => isPathChar_of_mem_cutPath s c (List.mem_filter.mp there).1
  have stops : (unbroken (cutPath s).2).takeWhile isPathChar = [] := by
    have stops := cutPath_snd_stops s
    cases back : (cutPath s).2 with
    | nil => rfl
    | cons c r =>
      rw [back, List.takeWhile_cons] at stops
      split at stops
      · cases stops
      · next ends =>
        have kept : isTabOrBreak c = false := by
          rw [isPathChar, Bool.and_eq_true, not_and_or, bne_iff_ne, bne_iff_ne, not_not, not_not] at ends
          rcases ends with rfl | rfl <;> rfl
        rw [unbroken, List.filter_cons, kept, Bool.not_false, if_pos rfl, List.takeWhile_cons, if_neg ends]
  have cut : cutPath (unbroken s) = (unbroken (cutPath s).1, unbroken (cutPath s).2) := by
    rw [← cutPath_append plain stops, ← unbroken_append, cutPath_eq_append]
  rw [withSlash, withSlash, cut, unbroken_append]
  rfl

/-- The scheme is read off what stands before the colon. -/
theorem exists_cutScheme (h : cutScheme s = some (scheme, r)) :
    ∃ p, s = p ++ ':' :: r ∧ (∀ c ∈ p, isPathChar c = true) ∧
      ∀ r', cutScheme (p ++ ':' :: r') = some (scheme, r') := by
  let belongs (c : Char) : Bool := isSchemeChar c || isTabOrBreak c
  have inFront : ∀ c ∈ s.takeWhile belongs, belongs c = true := fun _ there => List.mem_takeWhile_imp there
  have front (r' : List Char) : (s.takeWhile belongs ++ ':' :: r').takeWhile belongs = s.takeWhile belongs := by
    rw [List.takeWhile_append_of_pos inFront]
    exact List.append_nil _
  have behind (r' : List Char) : (s.takeWhile belongs ++ ':' :: r').dropWhile belongs = ':' :: r' := by
    rw [List.dropWhile_append_of_pos inFront]
    rfl
  have plain : ∀ c ∈ s.takeWhile belongs, isPathChar c = true :=
    fun c there => isPathChar_of (inFront c there) rfl rfl
  rw [cutScheme] at h
  dsimp only at h
  split at h
  · next r₀ colon =>
    split at h
    · next letter =>
      obtain ⟨rfl, rfl⟩ := Prod.mk.inj (Option.some.inj h)
      refine ⟨s.takeWhile belongs, ?_, plain, fun r' => ?_⟩
      · rw [← colon]
        exact List.takeWhile_append_dropWhile.symm
      · rw [cutScheme]
        dsimp only
        rw [behind, front]
        exact if_pos letter
    · cases h
  · cases h

theorem strips_trimmed (s : List Char) : Strips isControlOrSpace s (trimmed s) :=
  strips_dropWhile isControlOrSpace s

/-- The slash is put in at no end of a text that has none of what is dropped there. -/
theorem trimmed_withSlash (s : List Char) : trimmed (withSlash (trimmed s)) = withSlash (trimmed s) := by
  have whole := cutPath_eq_append (trimmed s)
  refine trimmed_eq_self (fun c first => ?_) fun c last => ?_
  · rw [withSlash, List.head?_append] at first
    cases front : (cutPath (trimmed s)).1 with
    | nil =>
      rw [front] at first
      rw [← Option.some.inj first]
      rfl
    | cons d p =>
      rw [front] at first whole
      exact (strips_trimmed s).first c (by rw [← whole]; exact first)
  · rw [withSlash, List.getLast?_append] at last
    rcases List.eq_nil_or_concat (cutPath (trimmed s)).2 with back | ⟨t, d, back⟩
    · rw [back] at last
      rw [← Option.some.inj last]
      rfl
    · refine (strips_trimmed s).last c ?_
      rw [back, List.concat_eq_append, ← List.cons_append, List.getLast?_concat, Option.some_or] at last
      rw [← whole, back, List.concat_eq_append, ← List.append_assoc, List.getLast?_concat]
      exact last

/-- A slash put in where the path does not end with one makes an empty segment. -/
theorem Site.url_withSlash {x : Site} {parts : List (List Char)}
    (path : (x.url scheme rest).path = .segments parts) (unended : parts.getLast? ≠ some []) :
    (∃ c r, rest = c :: r ∧ isPathChar c = true) ∧
      x.url scheme (withSlash rest) = { x.url scheme rest with path := .segments (parts ++ [[]]) } := by
  obtain rfl := Path.segments.inj path
  have some : ∃ c r, (cutPath rest).1 = c :: r := by
    refine List.exists_cons_of_ne_nil fun none => unended ?_
    rw [none]
    rfl
  obtain ⟨c, r, front⟩ := some
  have whole := cutPath_eq_append rest
  rw [front] at whole
  refine ⟨⟨c, _, whole.symm, isPathChar_of_mem_cutPath rest c (front ▸ List.mem_cons_self)⟩, ?_⟩
  have longer : ((cutPath rest).1 ++ ['/']).drop 1 = (cutPath rest).1.drop 1 ++ ['/'] := by
    rw [front]
    rfl
  rw [url, url, cutPath_withSlash, longer, readSegments_concat (by decide) rfl unended]

/-- The slashes before an authority and the authority itself stay as they are. -/
theorem dropWhile_withSlash (behind : s.dropWhile (isSlash .web) = front ++ rest)
    (inside : ∀ c ∈ front, endsAuthority .web c = false) (some : front ≠ []) :
    (withSlash s).dropWhile (isSlash .web) = front ++ withSlash rest := by
  have slashes : ∀ c ∈ s.takeWhile (isSlash .web), isSlash .web c = true :=
    fun _ there => List.mem_takeWhile_imp there
  have slashesInPath : ∀ c ∈ s.takeWhile (isSlash .web), isPathChar c = true :=
    fun c there => isPathChar_of (slashes c there) rfl rfl
  have frontInPath : ∀ c ∈ front, isPathChar c = true := fun c there =>
    isPathChar_of (p := fun c => !endsAuthority .web c) ((Bool.not_eq_true' _).mpr (inside c there)) rfl rfl
  have whole : s.takeWhile (isSlash .web) ++ (front ++ rest) = s := by
    rw [← behind]
    exact List.takeWhile_append_dropWhile
  rw [← whole, withSlash_append slashesInPath, withSlash_append frontInPath,
    List.dropWhile_append_of_pos slashes]
  obtain ⟨c, t, rfl⟩ := List.exists_cons_of_ne_nil some
  have other : ¬ isSlash .web c = true := by
    have own := inside c List.mem_cons_self
    rw [endsAuthority, Bool.or_eq_false_iff, Bool.or_eq_false_iff] at own
    rw [own.1.1]
    exact Bool.false_ne_true
  rw [List.cons_append, List.dropWhile_cons, if_neg other]

/-- The text with a slash at the end of its path is read as the URL with an empty segment there. -/
theorem parse_withSlash {parts : List (List Char)} (h : parse s = .ok u) (web : u.kind = .web)
    (path : u.path = .segments parts) (unended : parts.getLast? ≠ some []) :
    parse (withSlash (trimmed s)) = .ok { u with path := .segments (parts ++ [[]]) } := by
  obtain ⟨r, front, rest, x, cut, behind, inside, stop, read, whole⟩ := exists_site h web
  rw [← whole] at path
  obtain ⟨⟨c, t, first, inPath⟩, slash⟩ := Site.url_withSlash path unended
  rw [whole] at slash
  rw [← slash]
  obtain ⟨p, text, plain, again⟩ := exists_cutScheme cut
  have colon : withSlash (p ++ ':' :: r) = p ++ ':' :: withSlash r := by
    rw [List.append_cons, withSlash_append (List.forall_mem_append.mpr
      ⟨plain, List.forall_mem_singleton.mpr rfl⟩), ← List.append_cons]
  have some : front ≠ [] := by
    rintro rfl
    cases read
  have stop' : (withSlash rest).takeWhile (fun c => !endsAuthority .web c) = [] := by
    have same : withSlash rest = c :: withSlash t := by
      rw [first, ← List.singleton_append, withSlash_append (List.forall_mem_singleton.mpr inPath)]
      rfl
    rw [first, List.takeWhile_cons] at stop
    split at stop
    · cases stop
    · next ends => rw [same, List.takeWhile_cons, if_neg ends]
  refine parse_of_site (r := withSlash r) ?_ web ?_ inside stop' read
  · rw [trimmed_withSlash, text, colon, again]
  · rw [unbroken_withSlash, dropWhile_withSlash behind inside some]

end BridgeKeeper.Url
