import BridgeKeeper.Proofs.Text.Percent
import BridgeKeeper.Url.Edit

/-!
# Segments appended to a path

A text that is appended to a path makes a segment of its own, from which decoding gives it back, unless
it has tabs or line breaks, which are dropped, or is a dot segment, which is passed over or resolved.
-/
namespace BridgeKeeper.Url

open Text

variable {k : SchemeKind} {parts : List (List Char)} {text s : List Char}

/-! ## Dot segments -/

theorem toLower_cases (c : Char) :
    c.toLower = c ∨ c.toLower.toNat = c.toNat + 32 ∧ 65 ≤ c.toNat ∧ c.toNat ≤ 90 := by
  delta Char.toLower
  split
  · next upper =>
    have low : 65 ≤ c.toNat := upper.1
    have high : c.toNat ≤ 90 := upper.2
    refine Or.inr ⟨?_, low, high⟩
    show (c.val + 32).toNat = c.val.toNat + 32
    rw [UInt32.toNat_add]
    exact Nat.mod_eq_of_lt (Nat.lt_of_le_of_lt (Nat.add_le_add_right high 32) (by decide))
  · exact Or.inl rfl

/-- Only a letter is the lower-case form of another character. -/
theorem eq_of_toLower {c d : Char} (h : c.toLower = d) (early : d.toNat < 97) : c = d := by
  rcases toLower_cases c with same | ⟨shifted, low, -⟩
  · exact same.symm.trans h
  · rw [h] at shifted
    omega

theorem hexValue?_of_toLower_e {c : Char} (h : c.toLower = 'e') : hexValue? c = some 14 := by
  rcases toLower_cases c with same | ⟨shifted, -⟩
  · rw [same.symm.trans h]
    rfl
  · rw [h] at shifted
    have value : 'E'.toNat + 32 = 'e'.toNat := rfl
    have upper : 'E'.toNat = c.toNat := Nat.add_right_cancel (value.trans shifted)
    rw [← Char.ext (UInt32.toNat_inj.mp upper)]
    rfl

/-- A dot, written as such or escaped. -/
def IsDot (s : List Char) : Prop :=
  s = ['.'] ∨ ∃ x, s = ['%', '2', x] ∧ hexValue? x = some 14

theorem IsDot.decode (h : IsDot s) (r : List Char) :
    Percent.decode (s ++ r) = Utf8.encode ['.'] ++ Percent.decode r := by
  rcases h with rfl | ⟨x, rfl, digit⟩
  · exact Percent.decode_cons fun escape => absurd escape.1 (by decide)
  · exact Percent.decode_escape (.mk (h := 2) rfl digit)

theorem IsDot.decode_self (h : IsDot s) : Percent.decode s = Utf8.encode ['.'] := by
  have alone := h.decode []
  rwa [List.append_nil, show Percent.decode [] = [] from rfl, List.append_nil] at alone

theorem isDot_of_map (h : s.map Char.toLower = ['%', '2', 'e']) : IsDot s := by
  obtain ⟨a, r, rfl, first, rest⟩ := List.map_eq_cons_iff.mp h
  obtain ⟨b, r, rfl, second, rest⟩ := List.map_eq_cons_iff.mp rest
  obtain ⟨c, r, rfl, third, rest⟩ := List.map_eq_cons_iff.mp rest
  rw [List.map_eq_nil_iff.mp rest, eq_of_toLower first (by decide), eq_of_toLower second (by decide)]
  exact Or.inr ⟨c, rfl, hexValue?_of_toLower_e third⟩

theorem isDot_of_map_dot (h : s.map Char.toLower = ['.']) : IsDot s := by
  obtain ⟨a, r, rfl, first, rest⟩ := List.map_eq_cons_iff.mp h
  rw [List.map_eq_nil_iff.mp rest, eq_of_toLower first (by decide)]
  exact Or.inl rfl

theorem decode_of_isSingleDot (h : isSingleDot s = true) : Percent.decode s = Utf8.encode ['.'] := by
  rcases (Bool.or_eq_true _ _).mp h with plain | escaped
  · exact IsDot.decode_self (Or.inl (beq_iff_eq.mp plain))
  · exact (isDot_of_map (beq_iff_eq.mp escaped)).decode_self

theorem decode_of_isDoubleDot (h : isDoubleDot s = true) :
    Percent.decode s = Utf8.encode ['.', '.'] := by
  have dots : ∃ a b, s = a ++ b ∧ IsDot a ∧ IsDot b := by
    have split {x y : List Char} (h : s.map Char.toLower = x ++ y)
        (front : ∀ a, a.map Char.toLower = x → IsDot a)
        (back : ∀ b, b.map Char.toLower = y → IsDot b) : ∃ a b, s = a ++ b ∧ IsDot a ∧ IsDot b := by
      obtain ⟨a, b, whole, first, second⟩ := List.map_eq_append_iff.mp h
      exact ⟨a, b, whole, front a first, back b second⟩
    simp only [isDoubleDot, Bool.or_eq_true, beq_iff_eq] at h
    rcases h with ((plain | escaped) | escaped) | escaped
    · exact split (x := ['.']) plain (fun _ => isDot_of_map_dot) fun _ => isDot_of_map_dot
    · exact split (x := ['.']) escaped (fun _ => isDot_of_map_dot) fun _ => isDot_of_map
    · exact split (x := ['%', '2', 'e']) escaped (fun _ => isDot_of_map) fun _ => isDot_of_map_dot
    · exact split (x := ['%', '2', 'e']) escaped (fun _ => isDot_of_map) fun _ => isDot_of_map
  obtain ⟨a, b, rfl, first, second⟩ := dots
  rw [first.decode, second.decode_self]
  rfl

/-! ## One segment -/

def IsDots (s : List Char) : Prop := s = ['.'] ∨ s = ['.', '.']

instance (s : List Char) : Decidable (IsDots s) := inferInstanceAs (Decidable (_ ∨ _))

/-- A text that a path can have as a segment as it stands. -/
structure Intact (text : List Char) : Prop where
  unbroken : ∀ c ∈ text, isTabOrBreak c = false
  noDots : ¬ IsDots text

instance (text : List Char) : Decidable (Intact text) :=
  decidable_of_iff (text.all (fun c => isTabOrBreak c = false) = true ∧ ¬ IsDots text)
    ⟨fun h => ⟨fun c there => of_decide_eq_true (List.all_eq_true.mp h.1 c there), h.2⟩,
      fun h => ⟨List.all_eq_true.mpr fun c there => decide_eq_true (h.unbroken c there), h.noDots⟩⟩

theorem unbroken_eq_self_iff : unbroken text = text ↔ ∀ c ∈ text, isTabOrBreak c = false := by
  simp [unbroken]

theorem unbroken_append (s t : List Char) : unbroken (s ++ t) = unbroken s ++ unbroken t :=
  List.filter_append _ _

theorem decode_segment (k : SchemeKind) (s : List Char) :
    Percent.decode (Percent.encode (segmentSet k) s) = Utf8.encode s := by
  refine Percent.decode_encode ?_ s
  rw [segmentSet]
  split <;> decide

/-- The path to which a segment is appended: the root has none yet. -/
def ground (parts : List (List Char)) : List (List Char) :=
  if parts = [[]] then [] else parts

theorem length_ground (parts : List (List Char)) : (ground parts).length ≤ parts.length := by
  rw [ground]
  split
  · exact Nat.zero_le _
  · exact Nat.le_refl _

theorem ne_root_of_length (h : 2 ≤ parts.length) : parts ≠ [[]] := by
  rintro rfl
  exact absurd h (by decide)

theorem ground_of_length (h : 2 ≤ parts.length) : ground parts = parts :=
  if_neg (ne_root_of_length h)

/-- The newest segment is taken away, unless there is none or it is a drive letter. -/
theorem shorten_cases (parts : List (List Char)) : shorten parts = parts ∨ shorten parts = parts.tail := by
  cases parts with
  | nil => exact Or.inl rfl
  | cons s before =>
    rw [shorten]
    split
    · exact Or.inl rfl
    · exact Or.inr rfl

/-- What becomes of the segments, the newest first, when one is added to a path that is no file's. -/
theorem Trail.segments_add (noFile : k ≠ .file) (x : Trail) (set : Char → Bool) (s : List Char)
    (isLast : Bool) : (x.add k set s isLast).segments =
      if isDoubleDot (Percent.encode set (unbroken s)) then
        if isLast then [] :: shorten x.segments else shorten x.segments
      else if isSingleDot (Percent.encode set (unbroken s)) then
        if isLast then [] :: x.segments else x.segments
      else Percent.encode set (unbroken s) :: x.segments := by
  simp only [Trail.add, noFile, false_and, if_false]
  split
  · rfl
  · split <;> rfl

/-- What holds of the empty segment, of the segments so far and of the one that is added holds of all. -/
theorem Trail.forall_mem_add (noFile : k ≠ .file) {P : List Char → Prop} {x : Trail} {set : Char → Bool}
    {isLast : Bool} (none : P []) (own : P (Percent.encode set (unbroken s)))
    (h : ∀ p ∈ x.segments, P p) : ∀ p ∈ (x.add k set s isLast).segments, P p := by
  have closed {parts : List (List Char)} (h : ∀ p ∈ parts, P p) :
      ∀ p ∈ (if isLast then [] :: parts else parts), P p := by
    split
    · exact List.forall_mem_cons.mpr ⟨none, h⟩
    · exact h
  have shorter : ∀ p ∈ shorten x.segments, P p := by
    rcases shorten_cases x.segments with same | tail
    · rwa [same]
    · rw [tail]
      exact fun p there => h p (List.mem_of_mem_tail there)
  rw [Trail.segments_add noFile]
  split
  · exact closed shorter
  · split
    · exact closed h
    · exact List.forall_mem_cons.mpr ⟨own, h⟩

theorem Trail.forall_mem_addAll (noFile : k ≠ .file) {P : List Char → Prop} {set : Char → Bool}
    {texts : List (List Char)} {x : Trail} (none : P [])
    (own : ∀ s ∈ texts, P (Percent.encode set (unbroken s))) (h : ∀ p ∈ x.segments, P p) :
    ∀ p ∈ (x.addAll k set texts).segments, P p := by
  induction texts generalizing x with
  | nil => exact h
  | cons s texts ih =>
    obtain ⟨first, others⟩ := List.forall_mem_cons.mp own
    exact ih others (Trail.forall_mem_add noFile none first h)

theorem appendSegment_of_dots (h : IsDots text) : appendSegment k parts text = parts := by
  rw [appendSegment, if_pos (by simpa [IsDots] using h)]

/-- What is appended for other texts: one segment, or an empty one behind what is left of the path, where
the text becomes a dot segment. -/
theorem appendSegment_cases (noFile : k ≠ .file) (parts : List (List Char)) (h : ¬ IsDots text) :
    ¬ IsDots (unbroken text) ∧ appendSegment k parts text =
        ground parts ++ [Percent.encode (segmentSet k) (unbroken text)] ∨
      IsDots (unbroken text) ∧ ∃ kept, (kept = ground parts ∨ kept = (ground parts).dropLast) ∧
        appendSegment k parts text = kept ++ [[]] := by
  have bytes := decode_segment k (unbroken text)
  rw [appendSegment, if_neg (by simpa [IsDots] using h)]
  simp only [Trail.segments_add noFile, if_true]
  rw [← ground]
  split
  · next double =>
    have same := Utf8.encode_inj.mp (bytes.symm.trans (decode_of_isDoubleDot double))
    refine Or.inr ⟨Or.inr same, _, ?_, List.reverse_cons⟩
    rcases shorten_cases (ground parts).reverse with whole | tail
    · exact Or.inl (by rw [whole, List.reverse_reverse])
    · exact Or.inr (by rw [tail, List.tail_reverse, List.reverse_reverse])
  · next notDouble =>
    split
    · next single =>
      have same := Utf8.encode_inj.mp (bytes.symm.trans (decode_of_isSingleDot single))
      refine Or.inr ⟨Or.inl same, ground parts, Or.inl rfl, ?_⟩
      rw [List.reverse_cons, List.reverse_reverse]
    · next notSingle =>
      refine Or.inl ⟨?_, by rw [List.reverse_cons, List.reverse_reverse]⟩
      rintro (same | same)
      · refine notSingle ?_
        rw [same]
        cases k <;> rfl
      · refine notDouble ?_
        rw [same]
        cases k <;> rfl

/-- No text makes more than one segment. -/
theorem length_appendSegment (noFile : k ≠ .file) (parts : List (List Char)) (text : List Char) :
    (appendSegment k parts text).length ≤ parts.length + 1 := by
  by_cases dots : IsDots text
  · rw [appendSegment_of_dots dots]
    exact Nat.le_succ _
  · rcases appendSegment_cases noFile parts dots with ⟨-, added⟩ | ⟨-, kept, left, added⟩
    · rw [added, List.length_append, List.length_singleton]
      exact Nat.succ_le_succ (length_ground parts)
    · have short : kept.length ≤ (ground parts).length := by
        rcases left with rfl | rfl
        · exact Nat.le_refl _
        · exact (List.dropLast_sublist _).length_le
      rw [added, List.length_append, List.length_singleton]
      exact Nat.succ_le_succ (Nat.le_trans short (length_ground parts))

theorem appendSegment_of_intact (noFile : k ≠ .file) (parts : List (List Char)) (h : Intact text) :
    appendSegment k parts text = ground parts ++ [Percent.encode (segmentSet k) text] := by
  have same := unbroken_eq_self_iff.mpr h.unbroken
  rcases appendSegment_cases noFile parts h.noDots with ⟨-, added⟩ | ⟨dots, -⟩
  · rw [added, same]
  · rw [same] at dots
    exact absurd dots h.noDots

/-- Where a text makes one segment more, from which it comes back, it is intact. -/
theorem intact_of_appendSegment (noFile : k ≠ .file) {init : List (List Char)} {a : List Char}
    (added : appendSegment k parts text = init ++ [a]) (length : init.length = parts.length)
    (ne : parts ≠ [[]]) (back : Percent.decode a = Utf8.encode text) : Intact text ∧ init = parts := by
  by_cases dots : IsDots text
  · rw [appendSegment_of_dots dots] at added
    rw [added, List.length_append, List.length_singleton] at length
    omega
  rcases appendSegment_cases noFile parts dots with ⟨-, whole⟩ | ⟨resolved, kept, -, whole⟩
  · obtain ⟨same, last⟩ := List.append_inj' (added.symm.trans whole) rfl
    rw [List.singleton_inj.mp last, decode_segment, Utf8.encode_inj, unbroken_eq_self_iff] at back
    rw [ground, if_neg ne] at same
    exact ⟨⟨back, dots⟩, same⟩
  · obtain ⟨-, last⟩ := List.append_inj' (added.symm.trans whole) rfl
    rw [List.singleton_inj.mp last] at back
    have none : [] = text := Utf8.encode_inj.mp back
    rw [← none] at resolved
    rcases resolved with same | same <;> cases same

end BridgeKeeper.Url
