import BridgeKeeper.Url.Host
import Mathlib.Data.List.Induction

/-!
# IPv6 addresses and their text

The text that is written for an address is read as that address. A text that is read as one has eight
pieces of 16 bits, and is made of hexadecimal digits, colons and dots.
-/
namespace BridgeKeeper.Url

open Text

variable {s g : List Char} {n : Nat} {ps : List Nat}

theorem splitOn_eq_splitOnP (isSep : Char → Bool) (s : List Char) :
    splitOn isSep s = s.splitOnP isSep := by
  induction s with
  | nil => rfl
  | cons c r ih =>
    rw [splitOn, List.splitOnP_cons_eq_if_modifyHead, ih]
    split
    · rfl
    · obtain ⟨p, ps, parts⟩ := List.exists_cons_of_ne_nil (List.splitOnP_ne_nil isSep r)
      rw [parts]
      rfl

/-- A character of a text separates its parts or is in one of them. -/
theorem mem_parts (isSep : Char → Bool) {c : Char} (h : c ∈ s) :
    isSep c = true ∨ ∃ p ∈ splitOn isSep s, c ∈ p := by
  induction s with
  | nil => cases h
  | cons d r ih =>
    by_cases sep : isSep d = true
    · rw [splitOn, if_pos sep]
      rcases List.mem_cons.mp h with rfl | later
      · exact Or.inl sep
      · refine (ih later).imp_right ?_
        rintro ⟨p, within, there⟩
        exact ⟨p, List.mem_cons_of_mem _ within, there⟩
    · obtain ⟨p, ps, parts⟩ : ∃ p ps, splitOn isSep r = p :: ps := by
        rw [splitOn_eq_splitOnP]
        exact List.exists_cons_of_ne_nil (List.splitOnP_ne_nil isSep r)
      rw [splitOn, if_neg sep]
      rw [parts] at ih ⊢
      rcases List.mem_cons.mp h with rfl | later
      · exact Or.inr ⟨_, List.mem_cons_self, List.mem_cons_self⟩
      · refine (ih later).imp_right ?_
        rintro ⟨q, within, there⟩
        rcases List.mem_cons.mp within with rfl | within
        · exact ⟨_, List.mem_cons_self, List.mem_cons_of_mem _ there⟩
        · exact ⟨q, List.mem_cons_of_mem _ within, there⟩

/-! ## Numbers -/

theorem hexValue?_digitChar (h : n < 16) : hexValue? (digitChar n) = some n := by
  have : ∀ k : Fin 16, hexValue? (digitChar k) = some k.val := by decide
  exact this ⟨n, h⟩

theorem digitsIn?_concat (base : Nat) (ds : List Char) (c : Char) :
    digitsIn? base (ds ++ [c]) = (digitsIn? base ds).bind fun n =>
      (hexValue? c).bind fun d => if d < base then some (n * base + d) else none := by
  rw [digitsIn?, List.foldlM_append, ← digitsIn?]
  simp only [List.foldlM_cons, List.foldlM_nil, bind_pure]
  rfl

theorem digitsIn?_hexadecimal (n : Nat) : digitsIn? 16 (hexadecimal n) = some n := by
  fun_induction hexadecimal n with
  | case1 n small =>
    rw [← List.nil_append [digitChar n], digitsIn?_concat, hexValue?_digitChar small]
    simp [digitsIn?, small]
  | case2 n large ih =>
    have digit : n % 16 < 16 := Nat.mod_lt _ (by decide)
    rw [digitsIn?_concat, ih, hexValue?_digitChar digit]
    simp only [Option.bind_some, if_pos digit, Nat.div_add_mod']

theorem hexadecimal_ne_nil (n : Nat) : hexadecimal n ≠ [] := by
  unfold hexadecimal
  split <;> simp

theorem length_hexadecimal {k : Nat} (h : n < Nat.pow 16 (k + 1)) : (hexadecimal n).length ≤ k + 1 := by
  induction k generalizing n with
  | zero =>
    rw [hexadecimal, if_pos h]
    exact Nat.le_refl 1
  | succ k ih =>
    rw [hexadecimal]
    split
    · exact Nat.succ_le_succ (Nat.zero_le _)
    · rw [List.length_append, List.length_singleton]
      exact Nat.succ_le_succ (ih (Nat.div_lt_of_lt_mul (by rw [Nat.mul_comm]; exact h)))

/-- A number is made of digits, and so many of them bound it. -/
theorem of_digitsIn? {base : Nat} (h : digitsIn? base s = some n) :
    (∀ c ∈ s, (hexValue? c).isSome) ∧ n < Nat.pow base s.length := by
  induction s using List.reverseRecOn generalizing n with
  | nil =>
    rw [← Option.some.inj h]
    exact ⟨List.forall_mem_nil _, Nat.one_pos⟩
  | append_singleton ds c ih =>
    rw [digitsIn?_concat] at h
    obtain ⟨front, value, rest⟩ := Option.bind_eq_some_iff.mp h
    obtain ⟨d, digit, rest⟩ := Option.bind_eq_some_iff.mp rest
    obtain ⟨within, bound⟩ := ih value
    split at rest
    · next small =>
      constructor
      · intro x there
        rcases List.mem_append.mp there with there | there
        · exact within x there
        · rw [List.mem_singleton.mp there, digit]
          rfl
      · rw [← Option.some.inj rest, List.length_append, List.length_singleton]
        calc front * base + d < front * base + base := Nat.add_lt_add_left small _
          _ = (front + 1) * base := (Nat.succ_mul front base).symm
          _ ≤ Nat.pow base ds.length * base := Nat.mul_le_mul_right _ bound
    · cases rest

/-! ## Pieces -/

def isIpv6Char (c : Char) : Bool :=
  (hexValue? c).isSome || c == ':' || c == '.'

theorem of_mapM {α β : Type} {f : α → Option β} {xs : List α} {ys : List β} (h : xs.mapM f = some ys) :
    (∀ x ∈ xs, ∃ y, f x = some y) ∧ ∀ y ∈ ys, ∃ x ∈ xs, f x = some y := by
  induction xs generalizing ys with
  | nil =>
    rw [List.mapM_nil] at h
    rw [← Option.some.inj h]
    simp only [List.not_mem_nil, false_implies, implies_true, and_self]
  | cons x xs ih =>
    rw [List.mapM_cons] at h
    obtain ⟨y, first, h⟩ := Option.bind_eq_some_iff.mp h
    obtain ⟨later, rest, h⟩ := Option.bind_eq_some_iff.mp h
    obtain ⟨each, back⟩ := ih rest
    rw [← Option.some.inj h]
    refine ⟨List.forall_mem_cons.mpr ⟨⟨y, first⟩, each⟩, List.forall_mem_cons.mpr ⟨?_, fun z there => ?_⟩⟩
    · exact ⟨x, List.mem_cons_self, first⟩
    · obtain ⟨w, within, value⟩ := back z there
      exact ⟨w, List.mem_cons_of_mem _ within, value⟩

theorem isIpv6Char_of_hexValue? {c : Char} (h : (hexValue? c).isSome) : isIpv6Char c = true := by
  rw [isIpv6Char, h]
  rfl

/-- A part of an address with dots is made of digits and is a byte. -/
theorem of_ipv4Part {part : List Char}
    (h : (if part.isEmpty || 3 < part.length || !part.all Char.isDigit ||
      (1 < part.length && part.head? == some '0') then none
        else (some (decimalValue part)).filter (· ≤ 255)) = some n) :
    (∀ c ∈ part, isIpv6Char c = true) ∧ n ≤ 255 := by
  split at h
  · cases h
  · next plain =>
    simp only [Bool.or_eq_true, not_or, Bool.not_eq_true', Bool.not_eq_false] at plain
    refine ⟨fun c there => isIpv6Char_of_hexValue? ?_, ?_⟩
    · rw [hexValue?, if_pos (List.all_eq_true.mp plain.1.2 c there)]
      rfl
    · obtain ⟨same, small⟩ := Option.filter_eq_some_iff.mp h
      exact of_decide_eq_true small

theorem of_embeddedIpv4? (h : embeddedIpv4? s = some ps) :
    (∀ c ∈ s, isIpv6Char c = true) ∧ ∀ p ∈ ps, p < 65536 := by
  rw [embeddedIpv4?] at h
  obtain ⟨bytes, numbers, h⟩ := Option.bind_eq_some_iff.mp h
  obtain ⟨each, back⟩ := of_mapM numbers
  constructor
  · intro c there
    rcases mem_parts (· == '.') there with dot | ⟨part, within, there⟩
    · rw [beq_iff_eq.mp dot]
      rfl
    · obtain ⟨n, value⟩ := each part within
      exact (of_ipv4Part value).1 c there
  · have small (n : Nat) (there : n ∈ bytes) : n ≤ 255 := by
      obtain ⟨part, -, value⟩ := back n there
      exact (of_ipv4Part value).2
    split at h
    · next a b c d =>
      simp only [List.forall_mem_cons] at small
      rw [← Option.some.inj h]
      simp only [List.forall_mem_cons]
      refine ⟨?_, ?_, List.forall_mem_nil _⟩ <;> omega
    · cases h

/-- A piece of up to four hexadecimal digits. -/
theorem of_group (short : ¬ (g.isEmpty || decide (4 < g.length)) = true) (number : digitsIn? 16 g = some n) :
    (∀ c ∈ g, isIpv6Char c = true) ∧ n < 65536 := by
  obtain ⟨digits, bound⟩ := of_digitsIn? number
  refine ⟨fun c there => isIpv6Char_of_hexValue? (digits c there), ?_⟩
  have few : g.length ≤ 4 := by
    simp only [Bool.or_eq_true, decide_eq_true_eq, not_or] at short
    exact Nat.le_of_not_lt short.2
  exact Nat.lt_of_lt_of_le bound (Nat.pow_le_pow_right (by decide) few)

/-- What the pieces between colons are made of. -/
theorem of_ipv6Groups? {gs : List (List Char)} (h : ipv6Groups? gs = some ps) :
    (∀ g ∈ gs, ∀ c ∈ g, isIpv6Char c = true) ∧ ∀ p ∈ ps, p < 65536 := by
  fun_induction ipv6Groups? gs generalizing ps with
  | case1 =>
    rw [← Option.some.inj h]
    simp only [List.not_mem_nil, false_implies, implies_true, and_self]
  | case2 g dotted =>
    simpa only [List.forall_mem_singleton] using of_embeddedIpv4? h
  | case3 => cases h
  | case4 g _ short =>
    obtain ⟨n, number, rfl⟩ := Option.map_eq_some_iff.mp h
    simpa only [List.forall_mem_singleton] using of_group short number
  | case5 => cases h
  | case6 g gs _ _ short =>
    rename_i ih
    obtain ⟨n, number, h⟩ := Option.bind_eq_some_iff.mp h
    obtain ⟨rest, later, h⟩ := Option.bind_eq_some_iff.mp h
    obtain ⟨own, small⟩ := of_group short number
    rw [← Option.some.inj h]
    simp only [List.forall_mem_cons]
    exact ⟨⟨own, (ih later).1⟩, small, (ih later).2⟩

theorem of_groups (h : ipv6Groups? (splitOn (· == ':') s) = some ps) :
    (∀ c ∈ s, isIpv6Char c = true) ∧ ∀ p ∈ ps, p < 65536 := by
  obtain ⟨each, small⟩ := of_ipv6Groups? h
  refine ⟨fun c there => ?_, small⟩
  rcases mem_parts (· == ':') there with colon | ⟨g, within, there⟩
  · rw [beq_iff_eq.mp colon]
    rfl
  · exact each g within c there

/-- A side of a double colon may be empty. -/
theorem of_ipv6Side? (h : ipv6Side? s = some ps) :
    (∀ c ∈ s, isIpv6Char c = true) ∧ ∀ p ∈ ps, p < 65536 := by
  rw [ipv6Side?] at h
  split at h
  · next none =>
    rw [← Option.some.inj h, List.isEmpty_iff.mp none]
    simp only [List.not_mem_nil, false_implies, implies_true, and_self]
  · exact of_groups h

theorem of_cutAtDoubleColon {front back : List Char} (h : cutAtDoubleColon s = some (front, back)) :
    s = front ++ ':' :: ':' :: back := by
  fun_induction cutAtDoubleColon s generalizing front back with
  | case1 => cases h
  | case2 r =>
    obtain ⟨rfl, rfl⟩ := Prod.mk.inj (Option.some.inj h)
    rfl
  | case3 c r _ ih =>
    obtain ⟨⟨a, b⟩, later, same⟩ := Option.map_eq_some_iff.mp h
    obtain ⟨rfl, rfl⟩ := Prod.mk.inj same
    rw [ih later]
    rfl

structure IsAddress (ps : List Nat) : Prop where
  length : ps.length = 8
  small : ∀ p ∈ ps, p < 65536

theorem of_parseIpv6? (h : parseIpv6? s = some ps) :
    (∀ c ∈ s, isIpv6Char c = true) ∧ IsAddress ps := by
  rw [parseIpv6?] at h
  split at h
  · obtain ⟨groups, eight⟩ := Option.filter_eq_some_iff.mp h
    obtain ⟨each, small⟩ := of_groups groups
    exact ⟨each, beq_iff_eq.mp eight, small⟩
  · next front back cut =>
    obtain rfl := of_cutAtDoubleColon cut
    split at h
    · cases h
    obtain ⟨a, first, h⟩ := Option.bind_eq_some_iff.mp h
    obtain ⟨b, second, h⟩ := Option.bind_eq_some_iff.mp h
    split at h
    · cases h
    · next few =>
      rw [← Option.some.inj h]
      obtain ⟨before, small⟩ := of_ipv6Side? first
      obtain ⟨after, small'⟩ := of_ipv6Side? second
      refine ⟨?_, ?_, ?_⟩
      · simp only [List.forall_mem_append, List.forall_mem_cons]
        exact ⟨before, rfl, rfl, after⟩
      · simp only [List.length_append, List.length_replicate]
        omega
      · simp only [List.forall_mem_append, List.forall_mem_replicate]
        exact ⟨⟨small, Or.inr (by decide)⟩, small'⟩

/-! ## The text of an address -/

theorem hexadecimal_plain {c : Char} (h : c ∈ hexadecimal n) : c ≠ ':' ∧ c ≠ '.' := by
  have digit := (of_digitsIn? (digitsIn?_hexadecimal n)).1 c h
  constructor <;> (rintro rfl; cases digit)

theorem joinColons_cons_cons (p q : Nat) (ps : List Nat) :
    joinColons (p :: q :: ps) = hexadecimal p ++ ':' :: joinColons (q :: ps) := rfl

theorem joinColons_eq_cons (p : Nat) (ps : List Nat) :
    ∃ c r, joinColons (p :: ps) = c :: r ∧ c ≠ ':' := by
  obtain ⟨c, r, digits⟩ := List.exists_cons_of_ne_nil (hexadecimal_ne_nil p)
  have plain : c ≠ ':' := (hexadecimal_plain (n := p) (by rw [digits]; exact List.mem_cons_self)).1
  cases ps with
  | nil => exact ⟨c, r, by rw [joinColons]; simpa using digits, plain⟩
  | cons q ps => exact ⟨c, _, by rw [joinColons_cons_cons, digits]; rfl, plain⟩

theorem noDot_joinColons (ps : List Nat) : (joinColons ps).contains '.' = false := by
  rw [← Bool.not_eq_true, List.contains_iff_mem]
  match ps with
  | [] => exact List.not_mem_nil
  | [p] =>
    rw [show joinColons [p] = hexadecimal p by simp [joinColons]]
    exact fun there => (hexadecimal_plain there).2 rfl
  | p :: q :: ps =>
    rw [joinColons_cons_cons, List.mem_append, List.mem_cons]
    rintro (there | colon | there)
    · exact (hexadecimal_plain there).2 rfl
    · cases colon
    · exact absurd (List.contains_iff_mem.mpr there) (by rw [noDot_joinColons (q :: ps)]; decide)

theorem splitOn_joinColons (some : ps ≠ []) :
    splitOn (· == ':') (joinColons ps) = ps.map hexadecimal := by
  rw [splitOn_eq_splitOnP]
  refine List.splitOn_intercalate ':' ?_ (mt List.map_eq_nil_iff.mp some)
  intro digits within there
  obtain ⟨p, -, rfl⟩ := List.mem_map.mp within
  exact (hexadecimal_plain there).1 rfl

theorem ipv6Groups?_hexadecimal (ps : List Nat) (small : ∀ p ∈ ps, p < 65536) :
    ipv6Groups? (ps.map hexadecimal) = some ps := by
  have short {p : Nat} (h : p < 65536) :
      ¬ ((hexadecimal p).isEmpty || decide (4 < (hexadecimal p).length)) = true := by
    have few := length_hexadecimal (k := 3) h
    have some := hexadecimal_ne_nil p
    simpa [some] using few
  match ps, small with
  | [], _ => rfl
  | [p], small =>
    have dots : (hexadecimal p).contains '.' = false := by
      simpa using fun there => (hexadecimal_plain there).2 rfl
    rw [List.map_singleton, ipv6Groups?, if_neg (by rw [dots]; exact Bool.false_ne_true),
      if_neg (short (small p List.mem_cons_self)), digitsIn?_hexadecimal]
    rfl
  | p :: q :: ps, small =>
    obtain ⟨own, others⟩ := List.forall_mem_cons.mp small
    rw [List.map_cons, ipv6Groups?, if_neg (short own), digitsIn?_hexadecimal,
      ipv6Groups?_hexadecimal (q :: ps) others]
    · rfl
    · exact List.cons_ne_nil _ _

theorem ipv6Side?_joinColons (small : ∀ p ∈ ps, p < 65536) : ipv6Side? (joinColons ps) = some ps := by
  cases ps with
  | nil => rfl
  | cons p ps =>
    obtain ⟨c, r, digits, -⟩ := joinColons_eq_cons p ps
    rw [ipv6Side?, if_neg (by rw [digits]; exact Bool.false_ne_true),
      splitOn_joinColons (List.cons_ne_nil p ps), ipv6Groups?_hexadecimal _ small]

theorem cutAtDoubleColon_append (plain : ∀ c ∈ s, c ≠ ':') (r : List Char) :
    cutAtDoubleColon (s ++ r) = (cutAtDoubleColon r).map fun (a, b) => (s ++ a, b) := by
  induction s with
  | nil => simp
  | cons c s ih =>
    obtain ⟨own, others⟩ := List.forall_mem_cons.mp plain
    rw [List.cons_append, cutAtDoubleColon, ih others, Option.map_map]
    · rfl
    · exact fun _ same _ => own same

/-- No double colon is written between pieces. -/
theorem cutAtDoubleColon_joinColons (ps : List Nat) (r : List Char) :
    cutAtDoubleColon (joinColons ps ++ r) =
      (cutAtDoubleColon r).map fun (a, b) => (joinColons ps ++ a, b) := by
  match ps with
  | [] => simp [joinColons]
  | [p] =>
    rw [show joinColons [p] = hexadecimal p by simp [joinColons]]
    exact cutAtDoubleColon_append (fun c there => (hexadecimal_plain there).1) r
  | p :: q :: ps =>
    obtain ⟨c, t, digits, plain⟩ := joinColons_eq_cons q ps
    have later := cutAtDoubleColon_joinColons (q :: ps) r
    rw [joinColons_cons_cons, List.append_assoc,
      cutAtDoubleColon_append fun c there => (hexadecimal_plain there).1, List.cons_append, digits,
      List.cons_append, cutAtDoubleColon, ← List.cons_append, ← digits, later, Option.map_map,
      Option.map_map]
    · simp [Function.comp_def]
    · simpa using plain

/-! ## The run of zeros that is left out -/

/-- The best run so far is one of the runs of an address, and long enough. -/
def IsRun (ps : List Nat) (best : Option (Nat × Nat)) : Prop :=
  ∀ run, best = some run → run.2 = zeroRun (ps.drop run.1) ∧ 2 ≤ run.2

theorem of_longestZeroRun {i : Nat} (h : longestZeroRun ps = some (i, n)) :
    n = zeroRun (ps.drop i) ∧ 2 ≤ n := by
  rw [longestZeroRun] at h
  suffices best : IsRun ps (some (i, n)) from best (i, n) rfl
  rw [← h]
  refine List.foldlRecOn _ _ (motive := IsRun ps) (fun _ none => by cases none) ?_
  rintro best known run there
  obtain ⟨j, -, rfl⟩ := List.mem_map.mp there
  split
  · exact known
  · next long =>
    have own : IsRun ps (some (j, zeroRun (ps.drop j))) := by
      rintro run same
      rw [← Option.some.inj same]
      exact ⟨rfl, Nat.le_of_not_lt long⟩
    split
    · exact own
    · split
      · exact own
      · exact known

theorem zeroRun_spec (ps : List Nat) : List.replicate (zeroRun ps) 0 ++ ps.drop (zeroRun ps) = ps := by
  induction ps with
  | nil => rfl
  | cons p ps ih =>
    cases p with
    | zero => exact congrArg (0 :: ·) ih
    | succ p => rfl

/-- The text of an address is read as that address. -/
theorem parseIpv6?_ipv6Chars (h : IsAddress ps) : parseIpv6? (ipv6Chars ps) = some ps := by
  rw [ipv6Chars]
  cases run : longestZeroRun ps with
  | none =>
    have whole := cutAtDoubleColon_joinColons ps []
    rw [List.append_nil] at whole
    have some : ps ≠ [] := by
      rintro rfl
      exact absurd h.length (by decide)
    simp only [parseIpv6?, whole, cutAtDoubleColon, Option.map_none]
    rw [splitOn_joinColons some, ipv6Groups?_hexadecimal ps h.small, Option.filter_some, if_pos]
    rw [h.length]
    rfl
  | some x =>
    obtain ⟨i, n⟩ := x
    obtain ⟨zeros, long⟩ := of_longestZeroRun run
    have cut := cutAtDoubleColon_joinColons (ps.take i) (':' :: ':' :: joinColons (ps.drop (i + n)))
    have behind := zeroRun_spec (ps.drop i)
    rw [← zeros, List.drop_drop] at behind
    have whole : ps.take i ++ List.replicate n 0 ++ ps.drop (i + n) = ps := by
      rw [List.append_assoc, behind, List.take_append_drop]
    have length := congrArg List.length whole
    rw [h.length, List.length_append, List.length_append, List.length_replicate] at length
    have first : ipv6Side? (joinColons (ps.take i)) = some (ps.take i) :=
      ipv6Side?_joinColons fun p there => h.small p (List.mem_of_mem_take there)
    have second : ipv6Side? (joinColons (ps.drop (i + n))) = some (ps.drop (i + n)) :=
      ipv6Side?_joinColons fun p there => h.small p (List.mem_of_mem_drop there)
    simp only [parseIpv6?, List.append_assoc, List.cons_append, List.nil_append]
    rw [cut]
    simp only [cutAtDoubleColon, Option.map_some, List.append_nil, noDot_joinColons]
    have rest : 8 - (ps.take i).length - (ps.drop (i + n)).length = n := by omega
    simp only [Bool.false_eq_true, if_false, first, second, Option.bind_eq_bind, Option.bind_some]
    rw [if_neg (by omega), rest, ← List.append_assoc, whole]
    rfl

end BridgeKeeper.Url
