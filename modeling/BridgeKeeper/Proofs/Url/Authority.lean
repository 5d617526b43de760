import BridgeKeeper.Proofs.Outcome
import BridgeKeeper.Proofs.Text.Percent
import BridgeKeeper.Proofs.Url.Ipv6
import BridgeKeeper.Url.Parser

/-!
# The authority of a URL

What stands behind the two slashes of a URL whose scheme the standard does not name: a login that ends at
the last `@`, a host, a port, and the rest, which begins with a slash, a question mark or a hash. The texts
that are read are exactly those put together from such parts.
-/
namespace BridgeKeeper.Url

open Text

variable {s r l : List Char} {host : Host} {scheme : List Char}

/-! ## Hosts -/

theorem plain_of {p : Char → Bool} {c : Char} (h : p c = true)
    (none : p '/' = false ∧ p '?' = false ∧ p '#' = false ∧ p '@' = false) :
    endsAuthority .other c = false ∧ c ≠ '@' := by
  have differs {d : Char} (outside : p d = false) : c ≠ d := by
    rintro rfl
    rw [h] at outside
    cases outside
  obtain ⟨slash, question, hash, at'⟩ := none
  refine ⟨?_, differs at'⟩
  simp only [endsAuthority, isSlash, Bool.or_eq_false_iff, beq_eq_false_iff_ne]
  exact ⟨⟨⟨differs slash, rfl⟩, differs question⟩, differs hash⟩

theorem of_parseOpaqueHost (h : parseOpaqueHost s = .ok host) :
    (∃ inner ps, s = '[' :: inner ++ [']'] ∧ parseIpv6? inner = some ps ∧ host = .ipv6 ps) ∨
      ((∀ c ∈ s, isForbidden c = false) ∧ host = .name (Percent.encode Percent.isControl s)) := by
  rw [parseOpaqueHost] at h
  split at h
  · next result brackets =>
    rw [h] at brackets
    unfold bracketed? at brackets
    split at brackets
    · next r =>
      have result := Option.some.inj brackets
      split at result
      · next last =>
        split at result
        · next ps address =>
          refine Or.inl ⟨_, ps, ?_, address, (Except.ok.inj result).symm⟩
          obtain ⟨front, rfl⟩ := List.getLast?_eq_some_iff.mp last
          rw [List.dropLast_concat]
          rfl
        · cases result
      · cases result
    · cases brackets
  · split at h
    · cases h
    · next none =>
      refine Or.inr ⟨fun c there => ?_, (Except.ok.inj h).symm⟩
      exact eq_false_of_ne_true fun forbidden => none (List.any_eq_true.mpr ⟨c, there, forbidden⟩)

theorem parseOpaqueHost_ipv6 {ps : List Nat} (h : parseIpv6? s = some ps) :
    parseOpaqueHost ('[' :: s ++ [']']) = .ok (.ipv6 ps) := by
  rw [List.cons_append, parseOpaqueHost, bracketed?, List.getLast?_concat, List.dropLast_concat]
  simp only [h]

theorem parseOpaqueHost_name (h : ∀ c ∈ s, isForbidden c = false) :
    parseOpaqueHost s = .ok (.name (Percent.encode Percent.isControl s)) := by
  have plain : s.any isForbidden = false := List.any_eq_false.mpr fun c there => by simp [h c there]
  have bare : bracketed? s = none := by
    unfold bracketed?
    split
    · exact absurd (h '[' List.mem_cons_self) (by decide)
    · rfl
  rw [parseOpaqueHost, bare, plain]
  rfl

/-- Text without brackets belongs to the host, up to a colon that stands outside of them. -/
theorem cutHost_append {inside : Bool} (plain : ∀ c ∈ s, c ≠ '[' ∧ c ≠ ']' ∧ (inside = false → c ≠ ':'))
    (r : List Char) : cutHost inside (s ++ r) = (s ++ (cutHost inside r).1, (cutHost inside r).2) := by
  induction s with
  | nil => rfl
  | cons c s ih =>
    obtain ⟨⟨noOpen, noClose, noColon⟩, others⟩ := List.forall_mem_cons.mp plain
    have stays : (c == ':' && !inside) = false := by
      cases inside
      · simpa using noColon rfl
      · exact Bool.and_false _
    rw [List.cons_append, cutHost, stays, if_neg Bool.false_ne_true]
    simp only [beq_iff_eq, noOpen, noClose, if_false, ih others]
    rfl

theorem cutHost_host (h : parseOpaqueHost s = .ok host) (stop : r = [] ∨ ∃ t, r = ':' :: t) :
    cutHost false (s ++ r) = (s, r) := by
  have done : cutHost false r = ([], r) := by
    rcases stop with rfl | ⟨t, rfl⟩ <;> rfl
  rcases of_parseOpaqueHost h with ⟨inner, ps, rfl, address, -⟩ | ⟨plain, -⟩
  · have within : ∀ c ∈ inner, c ≠ '[' ∧ c ≠ ']' ∧ (true = false → c ≠ ':') := by
      intro c there
      have kept := (of_parseIpv6? address).1 c there
      refine ⟨?_, ?_, fun no => absurd no (by decide)⟩ <;> (rintro rfl; cases kept)
    have closed : cutHost true (']' :: r) = (']' :: (cutHost false r).1, (cutHost false r).2) := rfl
    have opened : cutHost false ('[' :: inner ++ [']'] ++ r) =
        ('[' :: (cutHost true (inner ++ ']' :: r)).1, (cutHost true (inner ++ ']' :: r)).2) := by
      rw [List.append_assoc]
      rfl
    rw [opened, cutHost_append within, closed, done]
    simp only [List.cons_append]
  · rw [cutHost_append, done, List.append_nil]
    intro c there
    have allowed := plain c there
    refine ⟨?_, ?_, fun _ => ?_⟩ <;> (rintro rfl; cases allowed)

/-! ## Logins -/

theorem takeWhile_no_at (h : '@' ∉ s) (r : List Char) :
    (s ++ '@' :: r).takeWhile (· != '@') = s ∧ (s ++ '@' :: r).dropWhile (· != '@') = '@' :: r := by
  have plain : ∀ c ∈ s, (c != '@') = true := fun c there => by
    rw [bne_iff_ne]
    exact fun same => h (same ▸ there)
  rw [List.takeWhile_append_of_pos plain, List.dropWhile_append_of_pos plain]
  exact ⟨List.append_nil s, rfl⟩

theorem cutLogin_of_not_mem (h : '@' ∉ s) : cutLogin s = none := by
  have none : s.reverse.dropWhile (· != '@') = [] := by
    rw [← List.append_nil s.reverse, List.dropWhile_append_of_pos]
    · rfl
    · intro c there
      rw [bne_iff_ne]
      exact fun same => h (same ▸ List.mem_reverse.mp there)
  rw [cutLogin, none]

theorem cutLogin_append (l : List Char) (h : '@' ∉ r) : cutLogin (l ++ '@' :: r) = some (l, r) := by
  have turned : (l ++ '@' :: r).reverse = r.reverse ++ '@' :: l.reverse := by simp
  obtain ⟨before, behind⟩ := takeWhile_no_at (mt List.mem_reverse.mp h) l.reverse
  rw [cutLogin, turned, behind, before]
  simp only [List.reverse_reverse]

/-- A text has no `@` or a last one. -/
theorem login_cases (s : List Char) : '@' ∉ s ∨ ∃ l r, s = l ++ '@' :: r ∧ '@' ∉ r := by
  by_cases there : '@' ∈ s
  · obtain ⟨r, l, turned, none⟩ := List.eq_append_cons_of_mem (List.mem_reverse.mpr there)
    refine Or.inr ⟨l.reverse, r.reverse, ?_, mt List.mem_reverse.mp none⟩
    rw [← List.reverse_reverse s, turned]
    simp
  · exact Or.inl there

/-! ## The parts of an authority -/

/-- The texts of what stands behind two slashes. -/
structure Authority where
  login : Option (List Char)
  name : List Char
  port : Option (List Char)
  rest : List Char

namespace Authority

def loginChars (a : Authority) : List Char :=
  match a.login with
  | none => []
  | some l => l ++ ['@']

def portChars (a : Authority) : List Char :=
  match a.port with
  | none => []
  | some ds => ':' :: ds

def chars (a : Authority) : List Char :=
  a.loginChars ++ (a.name ++ (a.portChars ++ a.rest))

def account (login : Option (List Char)) : List Char × List Char :=
  match login with
  | none => ([], [])
  | some l => readLogin l

/-- The part of the rest that a slash, a question mark or a hash does not begin. -/
def margin (a : Authority) : List Char := a.rest.takeWhile fun c => !endsAuthority .other c

/-- The parts are what they stand for. Without a host there is no port, and no login but an empty one. A
backslash may begin the rest behind a port. -/
structure Sound (a : Authority) (host : Host) : Prop where
  login : ∀ l, a.login = some l → ∀ c ∈ l, endsAuthority .other c = false
  name : parseOpaqueHost a.name = .ok host
  port : ∀ ds, a.port = some ds → (∀ c ∈ ds, c.isDigit = true) ∧ decimalValue ds ≤ 65535
  rest : a.margin = [] ∨ a.port.isSome ∧ a.margin.head? = some '\\' ∧ '@' ∉ a.margin
  bare : a.name = [] → a.port = none ∧ account a.login = ([], []) ∧ (a.login = some [] → a.rest = [])

def path (a : Authority) : Path :=
  .segments <| match (cutPath a.rest).1 with
  | [] => []
  | '/' :: r => readSegments .other r
  | r => readSegments .other r

def url (a : Authority) (scheme : List Char) (host : Host) : Url where
  scheme := scheme
  username := (account a.login).1
  password := (account a.login).2
  host := some host
  port := a.port.bind fun ds => if ds.isEmpty then none else some (decimalValue ds)
  path := a.path
  query := (readEnd .other (cutPath a.rest).2).1
  fragment := (readEnd .other (cutPath a.rest).2).2

variable {a : Authority}

theorem defaultPort?_of_other (other : schemeKind scheme = .other) : defaultPort? scheme = none := by
  have named (name : List Char) (known : schemeKind name ≠ .other) : scheme ≠ name :=
    fun same => known (same ▸ other)
  simp only [defaultPort?, named "http".toList (by decide), named "ws".toList (by decide),
    named "https".toList (by decide), named "wss".toList (by decide), named "ftp".toList (by decide),
    decide_false, Bool.or_self, Bool.false_eq_true, if_false]

theorem Sound.readPort (h : a.Sound host) (other : schemeKind scheme = .other) :
    readPort scheme a.portChars =
      .ok (a.port.bind fun ds => if ds.isEmpty then none else some (decimalValue ds)) := by
  rw [portChars]
  cases port : a.port with
  | none => rfl
  | some ds =>
    obtain ⟨digits, small⟩ := h.port ds port
    have all : ds.all Char.isDigit = true := List.all_eq_true.mpr digits
    simp only [Url.readPort, all, defaultPort?_of_other other, Option.bind_some, reduceCtorEq, decide_false,
      Bool.not_true, Bool.false_or, Bool.or_false, decide_eq_true_eq, if_neg (Nat.not_lt.mpr small)]
    split <;> rfl

/-- The port is written with a colon and digits. -/
theorem Sound.forall_mem_portChars (h : a.Sound host) {P : Char → Prop} (colon : P ':')
    (digit : ∀ c, c.isDigit = true → P c) : ∀ c ∈ a.portChars, P c := by
  rw [portChars]
  cases port : a.port with
  | none => exact List.forall_mem_nil _
  | some ds => exact List.forall_mem_cons.mpr ⟨colon, fun c there => digit c ((h.port ds port).1 c there)⟩

/-- Neither host nor port have what ends an authority or a login. -/
theorem Sound.plain (h : a.Sound host) :
    ∀ c ∈ a.name ++ a.portChars, endsAuthority .other c = false ∧ c ≠ '@' := by
  have inName : ∀ c ∈ a.name, endsAuthority .other c = false ∧ c ≠ '@' := by
    rcases of_parseOpaqueHost h.name with ⟨inner, ps, whole, address, -⟩ | ⟨allowed, -⟩
    · rw [whole, List.cons_append]
      refine List.forall_mem_cons.mpr ⟨by decide, List.forall_mem_append.mpr
        ⟨fun c there => ?_, List.forall_mem_singleton.mpr (by decide)⟩⟩
      exact plain_of ((of_parseIpv6? address).1 c there) (by decide)
    · intro c there
      refine plain_of (p := fun c => !isForbidden c) ?_ (by decide)
      rw [allowed c there]
      rfl
  exact List.forall_mem_append.mpr ⟨inName, h.forall_mem_portChars (by decide)
    fun c digit => plain_of digit (by decide)⟩

theorem Sound.loginChars_plain (h : a.Sound host) :
    ∀ c ∈ a.loginChars, endsAuthority .other c = false := by
  rw [loginChars]
  cases login : a.login with
  | none => exact List.forall_mem_nil _
  | some l => exact List.forall_mem_append.mpr ⟨h.login l login, List.forall_mem_singleton.mpr rfl⟩

theorem chars_eq_append (a : Authority) :
    a.chars = (a.loginChars ++ (a.name ++ a.portChars)) ++ a.rest := by
  simp only [chars, List.append_assoc]

theorem Sound.front_plain (h : a.Sound host) :
    ∀ c ∈ a.loginChars ++ (a.name ++ a.portChars), (!endsAuthority .other c) = true := by
  intro c there
  rw [Bool.not_eq_true']
  rcases List.mem_append.mp there with there | there
  · exact h.loginChars_plain c there
  · exact (h.plain c there).1

theorem Sound.takeWhile_chars (h : a.Sound host) :
    a.chars.takeWhile (fun c => !endsAuthority .other c) =
      a.loginChars ++ (a.name ++ (a.portChars ++ a.margin)) := by
  rw [chars_eq_append, List.takeWhile_append_of_pos h.front_plain, ← margin]
  simp only [List.append_assoc]

theorem Sound.dropWhile_chars (h : a.Sound host) :
    a.chars.dropWhile (fun c => !endsAuthority .other c) =
      a.rest.dropWhile (fun c => !endsAuthority .other c) := by
  rw [chars_eq_append, List.dropWhile_append_of_pos h.front_plain]

/-- Behind the host stands nothing or a colon. -/
theorem Sound.behind_name (h : a.Sound host) :
    a.portChars ++ a.margin = [] ∨ ∃ t, a.portChars ++ a.margin = ':' :: t := by
  rw [portChars]
  cases port : a.port with
  | none =>
    rcases h.rest with none | ⟨there, -⟩
    · exact Or.inl (by rw [none]; rfl)
    · rw [port] at there
      cases there
  | some ds => exact Or.inr ⟨_, rfl⟩

theorem Sound.behind_bare (h : a.Sound host) (none : a.name = []) : a.portChars ++ a.margin = [] := by
  have port := (h.bare none).1
  rcases h.rest with margin | ⟨there, -⟩
  · rw [portChars, port, margin]
    rfl
  · rw [port] at there
    cases there

/-- The port ends where the rest begins. -/
theorem Sound.cut_port (h : a.Sound host) :
    (a.portChars ++ a.margin).takeWhile (· != '\\') = a.portChars ∧
      (a.portChars ++ a.margin).dropWhile (· != '\\') = a.margin := by
  have digits : ∀ c ∈ a.portChars, (c != '\\') = true := by
    refine h.forall_mem_portChars (by decide) fun c digit => ?_
    rw [bne_iff_ne]
    rintro rfl
    exact absurd digit (by decide)
  have back : a.margin.takeWhile (· != '\\') = [] ∧ a.margin.dropWhile (· != '\\') = a.margin := by
    rcases h.rest with none | ⟨-, first, -⟩
    · rw [none]
      exact ⟨rfl, rfl⟩
    · obtain ⟨t, whole⟩ := List.head?_eq_some_iff.mp first
      rw [whole]
      exact ⟨rfl, rfl⟩
  rw [List.takeWhile_append_of_pos digits, List.dropWhile_append_of_pos digits, back.1, back.2,
    List.append_nil]
  exact ⟨rfl, rfl⟩

theorem Sound.no_at (h : a.Sound host) : '@' ∉ a.name ++ (a.portChars ++ a.margin) := by
  rw [← List.append_assoc, List.mem_append]
  rintro (there | there)
  · exact (h.plain _ there).2 rfl
  · rcases h.rest with none | ⟨-, -, without⟩
    · rw [none] at there
      cases there
    · exact without there

/-- Nothing that an empty name forbids is there. -/
theorem isEmpty_and_not {b : Bool} (bare : s = [] → b = true) : (s.isEmpty && !b) = false := by
  cases s with
  | nil =>
    rw [bare rfl]
    rfl
  | cons => rfl

theorem Sound.login_of_bare (h : a.Sound host) (login : a.login = some l) :
    (l.isEmpty && (a.name ++ (a.portChars ++ a.margin)).isEmpty &&
      !(a.rest.dropWhile fun c => !endsAuthority .other c).isEmpty) = false := by
  by_cases bare : a.name = []
  · by_cases noText : l = []
    · rw [(h.bare bare).2.2 (by rw [login, noText])]
      exact Bool.and_false _
    · rw [List.isEmpty_eq_false_iff.mpr noText]
      rfl
  · rw [List.isEmpty_eq_false_iff.mpr (List.append_ne_nil_of_left_ne_nil bare _), Bool.and_false]
    rfl

/-- A text put together from the parts of an authority is read as these. -/
theorem Sound.parse (h : a.Sound host) (other : schemeKind scheme = .other) :
    parseAuthority scheme a.chars = .ok (a.url scheme host) := by
  have noWeb : SchemeKind.other ≠ .web := by decide
  have rest : a.margin ++ a.rest.dropWhile (fun c => !endsAuthority .other c) = a.rest :=
    List.takeWhile_append_dropWhile
  have noPort : (a.name.isEmpty && !(a.portChars ++ a.margin).isEmpty) = false :=
    isEmpty_and_not fun bare => by rw [h.behind_bare bare]; rfl
  have noLogin : (a.name.isEmpty && !((account a.login).1.isEmpty && (account a.login).2.isEmpty)) = false :=
    isEmpty_and_not fun bare => by rw [(h.bare bare).2.1]; rfl
  have cut := cutHost_host h.name h.behind_name
  cases login : a.login with
  | none =>
    have place : a.loginChars ++ (a.name ++ (a.portChars ++ a.margin)) =
        a.name ++ (a.portChars ++ a.margin) := by
      rw [loginChars, login]
      rfl
    simp only [login, account] at noLogin
    simp only [parseAuthority, other, h.takeWhile_chars, h.dropWhile_chars, place,
      cutLogin_of_not_mem h.no_at, cut, noWeb, h.name, noPort, h.cut_port.1, h.cut_port.2, rest,
      h.readPort other, noLogin, if_false, Bool.false_eq_true, decide_false, Bool.false_and, pure_bind]
    rw [url, login]
    rfl
  | some l =>
    have place : a.loginChars ++ (a.name ++ (a.portChars ++ a.margin)) =
        l ++ '@' :: (a.name ++ (a.portChars ++ a.margin)) := by
      rw [loginChars, login]
      simp only [List.append_assoc, List.cons_append, List.nil_append]
    simp only [login, account] at noLogin
    simp only [parseAuthority, other, h.takeWhile_chars, h.dropWhile_chars, place,
      cutLogin_append l h.no_at, h.login_of_bare login, cut, noWeb, h.name, noPort, h.cut_port.1, h.cut_port.2, rest,
      h.readPort other, noLogin, if_false, Bool.false_eq_true, decide_false, Bool.false_and, pure_bind]
    rw [url, login]
    rfl

/-! ## What is read -/

theorem takeWhile_dropWhile (p : Char → Bool) (s : List Char) : (s.dropWhile p).takeWhile p = [] := by
  induction s with
  | nil => rfl
  | cons c s ih =>
    rw [List.dropWhile_cons]
    split
    · exact ih
    · next ends => rw [List.takeWhile_cons, if_neg ends]

theorem cutHost_append_eq (inside : Bool) (s : List Char) :
    (Url.cutHost inside s).1 ++ (Url.cutHost inside s).2 = s := by
  fun_induction Url.cutHost inside s with
  | case1 => rfl
  | case2 => rfl
  | case3 inside c r _ h rest cut ih =>
    rw [cut] at ih
    exact congrArg (c :: ·) ih

theorem cutHost_behind (inside : Bool) (s : List Char) :
    (Url.cutHost inside s).2 = [] ∨ ∃ t, (Url.cutHost inside s).2 = ':' :: t := by
  fun_induction Url.cutHost inside s with
  | case1 => exact Or.inl rfl
  | case2 inside c r colon =>
    rw [beq_iff_eq.mp (Bool.and_eq_true_iff.mp colon).1]
    exact Or.inr ⟨r, rfl⟩
  | case3 inside c r _ h rest cut ih =>
    rw [cut] at ih
    exact ih

theorem of_readPort {number : Option Nat} (h : Url.readPort scheme s = .ok number) :
    (∀ c ∈ s.drop 1, c.isDigit = true) ∧ decimalValue (s.drop 1) ≤ 65535 := by
  cases s with
  | nil => exact ⟨List.forall_mem_nil _, Nat.zero_le _⟩
  | cons c ds =>
    rw [Url.readPort] at h
    split at h
    · cases h
    · next plain =>
      simp only [Bool.or_eq_true, Bool.not_eq_true', decide_eq_true_eq, not_or, Bool.not_eq_false,
        Nat.not_lt] at plain
      exact ⟨List.all_eq_true.mp plain.1, plain.2⟩

/-- What a backslash cuts off is nothing, or begins with it. -/
theorem head?_behind_backslash (s : List Char) :
    s.dropWhile (· != '\\') = [] ∨ (s.dropWhile (· != '\\')).head? = some '\\' := by
  have first := List.head?_dropWhile_not (· != '\\') s
  cases cut : s.dropWhile (· != '\\') with
  | nil => exact Or.inl rfl
  | cons c r =>
    rw [cut] at first
    exact Or.inr (congrArg some (bne_eq_false_iff_eq.mp first))

/-- What a backslash cuts off from the port belongs to the rest. -/
theorem margin_behind_port {back : List Char} (inside : ∀ c ∈ s, endsAuthority .other c = false)
    (behind : back.takeWhile (fun c => !endsAuthority .other c) = []) :
    (s.dropWhile (· != '\\') ++ back).takeWhile (fun c => !endsAuthority .other c) =
      s.dropWhile (· != '\\') := by
  rw [List.takeWhile_append_of_pos, behind, List.append_nil]
  intro c there
  rw [inside c (List.dropWhile_subset _ there)]
  rfl

/-- A host that is cut off, with what stands around it. -/
theorem exists_sound {login : Option (List Char)} {place back : List Char} {number : Option Nat}
    (inLogin : ∀ l, login = some l → ∀ c ∈ l, endsAuthority .other c = false)
    (inPlace : ∀ c ∈ place, endsAuthority .other c = false) (noAt : '@' ∉ place)
    (behind : back.takeWhile (fun c => !endsAuthority .other c) = [])
    (name : parseOpaqueHost (Url.cutHost false place).1 = .ok host)
    (port : Url.readPort scheme ((Url.cutHost false place).2.takeWhile (· != '\\')) = .ok number)
    (bare : (Url.cutHost false place).1 = [] → (Url.cutHost false place).2 = [] ∧
      account login = ([], []) ∧ (login = some [] → back = [])) :
    ∃ a : Authority, a.login = login ∧ a.Sound host ∧ a.chars = a.loginChars ++ (place ++ back) := by
  have whole := cutHost_append_eq false place
  have colon := cutHost_behind false place
  generalize (Url.cutHost false place).1 = text at *
  generalize (Url.cutHost false place).2 = behindText at *
  subst whole
  have inside := List.forall_mem_append.mp inPlace
  rcases colon with rfl | ⟨t, rfl⟩
  · refine ⟨⟨login, text, none, back⟩, rfl, ?_, ?_⟩
    · have noPort : ∀ ds, (none : Option (List Char)) = some ds →
          (∀ c ∈ ds, c.isDigit = true) ∧ decimalValue ds ≤ 65535 := fun _ none => by cases none
      exact ⟨inLogin, name, noPort, Or.inl behind, fun none => ⟨rfl, (bare none).2⟩⟩
    · simp only [chars, portChars, List.append_nil, List.nil_append]
  · obtain ⟨digits, small⟩ := of_readPort port
    have inPort := (List.forall_mem_cons.mp inside.2).2
    refine ⟨⟨login, text, some (t.takeWhile (· != '\\')), t.dropWhile (· != '\\') ++ back⟩, rfl, ?_, ?_⟩
    · refine ⟨inLogin, name, ?_, ?_, ?_⟩
      · rintro _ ⟨⟩
        exact ⟨digits, small⟩
      · rw [Authority.margin, margin_behind_port inPort behind]
        refine (head?_behind_backslash t).imp_right fun first => ⟨rfl, first, fun there => noAt ?_⟩
        exact List.mem_append_right _ (List.mem_cons_of_mem _ (List.dropWhile_subset _ there))
      · intro none
        cases (bare none).1
    · simp only [chars, portChars, List.append_assoc, List.cons_append]
      rw [← List.append_assoc (t.takeWhile _), List.takeWhile_append_dropWhile]

/-- What is read consists of such parts. -/
theorem exists_parts {u : Url} (other : schemeKind scheme = .other) (h : parseAuthority scheme s = .ok u) :
    ∃ (a : Authority) (host : Host), a.Sound host ∧ a.chars = s := by
  have noWeb : SchemeKind.other ≠ .web := by decide
  have cut : s.takeWhile (fun c => !endsAuthority .other c) ++
      s.dropWhile (fun c => !endsAuthority .other c) = s := List.takeWhile_append_dropWhile
  have inFront : ∀ c ∈ s.takeWhile (fun c => !endsAuthority .other c), endsAuthority .other c = false :=
    fun c there => (Bool.not_eq_true' _).mp (List.all_eq_true.mp List.all_takeWhile c there)
  have behind : (s.dropWhile fun c => !endsAuthority .other c).takeWhile
      (fun c => !endsAuthority .other c) = [] := takeWhile_dropWhile _ s
  rcases login_cases (s.takeWhile fun c => !endsAuthority .other c) with noAt | ⟨l, place, front, noAt⟩
  · simp only [parseAuthority, other, cutLogin_of_not_mem noAt, noWeb, if_false, Bool.false_eq_true,
      decide_false, Bool.false_and, pure_bind] at h
    obtain ⟨host, name, h⟩ := bind_eq_ok_iff.mp h
    split at h
    · cases h
    next noPort =>
    obtain ⟨number, port, -⟩ := bind_eq_ok_iff.mp h
    have noText : ∀ l : List Char, none = some l → ∀ c ∈ l, endsAuthority .other c = false := by
      rintro _ ⟨⟩
    obtain ⟨a, login, sound, chars⟩ := exists_sound noText inFront noAt behind name port
      fun bare => ⟨by simpa [bare] using noPort, rfl, by rintro ⟨⟩⟩
    refine ⟨a, host, sound, ?_⟩
    rw [chars, loginChars, login, List.nil_append, cut]
  · simp only [parseAuthority, other, front, cutLogin_append l noAt, noWeb, if_false, Bool.false_eq_true,
      decide_false, Bool.false_and, pure_bind] at h
    split at h
    · cases h
    next there =>
    obtain ⟨host, name, h⟩ := bind_eq_ok_iff.mp h
    split at h
    · cases h
    next noPort =>
    obtain ⟨number, port, h⟩ := bind_eq_ok_iff.mp h
    split at h
    · cases h
    next noLogin =>
    rw [front] at inFront cut
    obtain ⟨inLogin, inPlace⟩ := List.forall_mem_append.mp inFront
    obtain ⟨a, login, sound, chars⟩ := exists_sound (fun _ same => Option.some.inj same ▸ inLogin)
      (List.forall_mem_cons.mp inPlace).2 noAt behind name port fun bare => by
        have none : (Url.cutHost false place).2 = [] := by simpa [bare] using noPort
        have noPlace := cutHost_append_eq false place
        rw [bare, none] at noPlace
        refine ⟨none, ?_, ?_⟩
        · have empty : (readLogin l).1 = [] ∧ (readLogin l).2 = [] := by simpa [bare] using noLogin
          exact Prod.ext empty.1 empty.2
        · rintro ⟨⟩
          simpa [← noPlace] using there
    refine ⟨a, host, sound, Eq.trans ?_ cut⟩
    rw [chars, loginChars, login]
    simp only [List.append_assoc, List.cons_append, List.nil_append]

/-- The texts that are read are those put together from such parts, and the URL is the one that these stand
for. -/
theorem parseAuthority_eq_ok_iff {u : Url} (other : schemeKind scheme = .other) :
    parseAuthority scheme s = .ok u ↔
      ∃ (a : Authority) (host : Host), a.Sound host ∧ a.chars = s ∧ a.url scheme host = u := by
  constructor
  · intro h
    obtain ⟨a, host, sound, whole⟩ := exists_parts other h
    refine ⟨a, host, sound, whole, ?_⟩
    rw [← whole, sound.parse other] at h
    exact Except.ok.inj h
  · rintro ⟨a, host, sound, rfl, rfl⟩
    exact sound.parse other

end Authority
end BridgeKeeper.Url
