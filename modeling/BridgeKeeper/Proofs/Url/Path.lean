import BridgeKeeper.Proofs.Url.Appending
import BridgeKeeper.Proofs.Url.Ipv6
import BridgeKeeper.Url.Printer

/-!
# The segments of a path and their text

A path that is read has at least one segment, and no segment has what would end it, so that the segments
can be read off the text. A text that is appended gets behind no segment but the newest, and with a slash
more at its end a path has an empty segment more.
-/
namespace BridgeKeeper.Url

open Text

variable {k : SchemeKind} {parts back : List (List Char)} {s : List Char} {c : Char}

/-! ## Segments that are read -/

def IsPlain (p : List Char) : Prop := ∀ c ∈ p, c ≠ '/' ∧ c ≠ '?' ∧ c ≠ '#'

instance (p : List Char) : Decidable (IsPlain p) :=
  decidable_of_iff (p.all (fun c => c ≠ '/' ∧ c ≠ '?' ∧ c ≠ '#') = true)
    ⟨fun h c there => of_decide_eq_true (List.all_eq_true.mp h c there),
      fun h => List.all_eq_true.mpr fun c there => decide_eq_true (h c there)⟩

theorem IsPlain.no_slash {p : List Char} (h : IsPlain p) : '/' ∉ p := fun there => (h _ there).1 rfl

theorem isPlain_nil : IsPlain [] := List.forall_mem_nil _

theorem isPlain_encode {set : Char → Bool} (question : set '?' = true) (hash : set '#' = true)
    (slash : set '/' = true ∨ '/' ∉ s) : IsPlain (Percent.encode set s) := by
  refine Percent.forall_mem_encode (by decide) fun c there _ plain => ⟨?_, ?_, ?_⟩
  · rintro rfl
    rcases slash with escaped | none
    · rw [escaped] at plain
      cases plain
    · exact none there
  · rintro rfl
    rw [question] at plain
    cases plain
  · rintro rfl
    rw [hash] at plain
    cases plain

theorem not_sep_of_mem_splitOn {isSep : Char → Bool} {p : List Char} (h : p ∈ splitOn isSep s) :
    ∀ c ∈ p, isSep c = false := by
  induction s generalizing p with
  | nil =>
    rw [List.mem_singleton.mp h]
    exact List.forall_mem_nil _
  | cons d r ih =>
    rw [splitOn] at h
    split at h
    · rcases List.mem_cons.mp h with rfl | later
      · exact List.forall_mem_nil _
      · exact ih later
    · next other =>
      have plain : isSep d = false := eq_false_of_ne_true other
      split at h
      · rw [List.mem_singleton.mp h]
        exact List.forall_mem_singleton.mpr plain
      · next q qs cut =>
        rw [cut] at ih
        rcases List.mem_cons.mp h with rfl | later
        · exact List.forall_mem_cons.mpr ⟨plain, ih List.mem_cons_self⟩
        · exact ih (List.mem_cons_of_mem _ later)

theorem splitOn_concat {isSep : Char → Bool} (sep : isSep c = true) (s : List Char) :
    splitOn isSep (s ++ [c]) = splitOn isSep s ++ [[]] := by
  rw [splitOn_eq_splitOnP, splitOn_eq_splitOnP, List.splitOnP_append_cons s [] sep, List.splitOnP_nil]

theorem exists_splitOn_eq_concat (isSep : Char → Bool) (s : List Char) :
    ∃ init last, splitOn isSep s = init ++ [last] := by
  have some : splitOn isSep s ≠ [] := by
    rw [splitOn_eq_splitOnP]
    exact List.splitOnP_ne_nil isSep s
  exact ⟨_, _, (List.dropLast_concat_getLast some).symm⟩

/-- Only the last of the texts is added as the one that ends the path. -/
theorem Trail.addAll_concat (x : Trail) (set : Char → Bool) (init : List (List Char)) (last : List Char) :
    x.addAll k set (init ++ [last]) =
      (init.foldl (fun x s => x.add k set s false) x).add k set last true := by
  induction init generalizing x with
  | nil => rfl
  | cons s init ih =>
    rw [List.cons_append, addAll, ih, List.foldl_cons]
    cases init <;> rfl

/-- Whether a text ends the path makes a difference only where an empty segment ends it then. -/
theorem Trail.segments_add_of_open (noFile : k ≠ .file) {x : Trail} {set : Char → Bool}
    (unended : (x.add k set s true).segments.head? ≠ some []) :
    (x.add k set s false).segments = (x.add k set s true).segments := by
  simp only [Trail.segments_add noFile, if_true] at unended ⊢
  split at unended
  · exact absurd rfl unended
  · split at unended
    · exact absurd rfl unended
    · next notDouble notSingle => rw [if_neg notDouble, if_neg notSingle, if_neg notDouble, if_neg notSingle]

theorem readSegments_ne_nil (noFile : k ≠ .file) (s : List Char) : readSegments k s ≠ [] := by
  obtain ⟨init, last, cut⟩ := exists_splitOn_eq_concat (isSlash k) s
  rw [readSegments, cut, Trail.addAll_concat, Trail.segments_add noFile, ne_eq, List.reverse_eq_nil_iff]
  split
  · exact List.cons_ne_nil _ _
  · split <;> exact List.cons_ne_nil _ _

theorem isPlain_readSegments (noFile : k ≠ .file) (s : List Char) : ∀ p ∈ readSegments k s, IsPlain p := by
  intro p there
  refine Trail.forall_mem_addAll noFile isPlain_nil (fun t within => ?_) (List.forall_mem_nil _) p
    (List.mem_reverse.mp there)
  refine isPlain_encode rfl rfl (Or.inr fun slash => ?_)
  have other := not_sep_of_mem_splitOn within '/' (List.mem_filter.mp slash).1
  cases other

/-- A slash behind a path that does not end with one is an empty segment. -/
theorem readSegments_concat (noFile : k ≠ .file) (sep : isSlash k c = true)
    (unended : (readSegments k s).getLast? ≠ some []) :
    readSegments k (s ++ [c]) = readSegments k s ++ [[]] := by
  obtain ⟨init, last, cut⟩ := exists_splitOn_eq_concat (isSlash k) s
  rw [readSegments, cut, Trail.addAll_concat, List.getLast?_reverse] at unended
  have same := Trail.segments_add_of_open noFile unended
  rw [readSegments, readSegments, splitOn_concat sep, Trail.addAll_concat, cut, List.foldl_append,
    List.foldl_cons, List.foldl_nil, Trail.addAll_concat, ← same, Trail.segments_add noFile]
  exact List.reverse_cons

/-! ## Segments that are appended -/

theorem isPlain_appendSegment (web : k = .web) (h : ∀ p ∈ parts, IsPlain p) (text : List Char) :
    ∀ p ∈ appendSegment k parts text, IsPlain p := by
  subst web
  rw [appendSegment]
  split
  · exact h
  · intro p there
    refine Trail.forall_mem_add (by decide) isPlain_nil (isPlain_encode rfl rfl (Or.inl rfl)) ?_ p
      (List.mem_reverse.mp there)
    intro q there
    have within := List.mem_reverse.mp there
    split at within
    · cases within
    · exact h q within

/-- A text that is appended takes at most one segment away and puts another in its place. -/
theorem exists_appendSegment (noFile : k ≠ .file) (front : List (List Char)) (some : back ≠ [])
    (text : List Char) : ∃ back', back' ≠ [] ∧ appendSegment k (front ++ back) text = front ++ back' := by
  by_cases dots : IsDots text
  · exact ⟨back, some, appendSegment_of_dots dots⟩
  by_cases root : front ++ back = [[]]
  · have none : front = [] := by
      cases front with
      | nil => rfl
      | cons p front => exact absurd (List.append_eq_nil_iff.mp (List.cons.inj root).2).2 some
    refine ⟨appendSegment k (front ++ back) text, ?_, by rw [none, List.nil_append, List.nil_append]⟩
    rcases appendSegment_cases noFile (front ++ back) dots with ⟨-, added⟩ | ⟨-, kept, -, added⟩ <;>
      simp [added]
  · rcases appendSegment_cases noFile (front ++ back) dots with ⟨-, added⟩ | ⟨-, kept, left, added⟩
    · rw [ground, if_neg root, List.append_assoc] at added
      exact ⟨_, by simp, added⟩
    · rw [ground, if_neg root, List.dropLast_append_of_ne_nil some] at left
      rcases left with rfl | rfl
      · exact ⟨back ++ [[]], by simp, by rw [added, List.append_assoc]⟩
      · exact ⟨back.dropLast ++ [[]], by simp, by rw [added, List.append_assoc]⟩

/-- However many texts are appended, they get behind no segment but the newest. -/
theorem exists_foldl_appendSegment (noFile : k ≠ .file) (front : List (List Char)) (some : back ≠ [])
    (texts : List (List Char)) :
    ∃ back', back' ≠ [] ∧ texts.foldl (appendSegment k) (front ++ back) = front ++ back' := by
  induction texts generalizing back with
  | nil => exact ⟨back, some, rfl⟩
  | cons text texts ih =>
    obtain ⟨back', some', added⟩ := exists_appendSegment noFile front some text
    rw [List.foldl_cons, added]
    exact ih some'

/-! ## The text of the segments -/

theorem segmentChars_append (xs ys : List (List Char)) :
    segmentChars (xs ++ ys) = segmentChars xs ++ segmentChars ys :=
  List.flatMap_append

theorem segmentChars_singleton (p : List Char) : segmentChars [p] = '/' :: p := List.append_nil _

theorem splitOn_segmentChars {p : List Char} (plain : '/' ∉ p) (others : ∀ q ∈ parts, '/' ∉ q) :
    splitOn (· == '/') (p ++ segmentChars parts) = p :: parts := by
  have own : ∀ c ∈ p, (c == '/') = false := fun c there => by
    rw [beq_eq_false_iff_ne]
    exact fun same => plain (same ▸ there)
  rw [splitOn_eq_splitOnP]
  induction parts generalizing p with
  | nil => rw [segmentChars, List.flatMap_nil, List.append_nil, List.splitOnP_eq_singleton own]
  | cons q parts ih =>
    obtain ⟨first, others⟩ := List.forall_mem_cons.mp others
    have rest := ih first others fun c there => by
      rw [beq_eq_false_iff_ne]
      exact fun same => first (same ▸ there)
    rw [segmentChars, List.flatMap_cons, List.cons_append,
      List.splitOnP_append_cons_of_forall_mem own _ rfl, ← segmentChars, rest]

/-- The segments can be read off their text. -/
theorem segmentChars_inj {xs ys : List (List Char)} (hx : ∀ p ∈ xs, IsPlain p) (hy : ∀ p ∈ ys, IsPlain p) :
    segmentChars xs = segmentChars ys ↔ xs = ys := by
  constructor
  · intro same
    have first := splitOn_segmentChars List.not_mem_nil fun p there => (hx p there).no_slash
    have second := splitOn_segmentChars List.not_mem_nil fun p there => (hy p there).no_slash
    rw [same, second] at first
    exact (List.cons.inj first).2.symm
  · exact congrArg segmentChars

/-- The text ends with a slash where the last segment is empty. -/
theorem getLast?_segmentChars (h : ∀ p ∈ parts, IsPlain p) :
    (segmentChars parts).getLast? = some '/' ↔ parts.getLast? = some [] := by
  rcases List.eq_nil_or_concat parts with rfl | ⟨init, p, rfl⟩
  · exact iff_of_false nofun nofun
  · rw [List.concat_eq_append] at h ⊢
    rw [segmentChars_append, segmentChars_singleton, List.getLast?_concat, List.getLast?_append]
    rcases List.eq_nil_or_concat p with rfl | ⟨s, c, rfl⟩
    · exact iff_of_true rfl rfl
    · have own := h _ (List.mem_append_right _ (List.mem_singleton_self _))
      rw [List.concat_eq_append] at own ⊢
      have other := (own c (List.mem_append_right _ (List.mem_singleton_self _))).1
      rw [← List.cons_append, List.getLast?_concat, Option.some_or]
      exact iff_of_false (fun ends => other (Option.some.inj ends))
        fun none => List.append_ne_nil_of_right_ne_nil s (List.cons_ne_nil c []) (Option.some.inj none)

theorem mem_segmentChars {c : Char} {parts : List (List Char)} (h : c ∈ segmentChars parts) :
    c = '/' ∨ ∃ p ∈ parts, c ∈ p := by
  obtain ⟨p, within, there⟩ := List.mem_flatMap.mp h
  exact (List.mem_cons.mp there).imp_right fun there => ⟨p, within, there⟩

end BridgeKeeper.Url
