import BridgeKeeper.Json.Printer
import BridgeKeeper.Json.Reader

/-!
# JSON text reads back

A value without fractions and exponents, as data is written, is read back from its text, on one line
or indented, whatever its strings hold. The induction is on the value; the fuel of the reader is
bounded by the length of the text.
-/
namespace BridgeKeeper.Json

/-! ## Numerals -/

/-- What may stand behind a numeral without becoming part of it. -/
def Stops (i : Input) : Prop :=
  ∀ c r, i = some c :: r → c.isDigit = false ∧ c ≠ '.' ∧ c ≠ 'e' ∧ c ≠ 'E'

theorem stops_nil : Stops [] := by
  intro c r h
  cases h

theorem takeDigits_stops {i : Input} (h : Stops i) : takeDigits i = ([], i) := by
  cases i with
  | nil => rfl
  | cons c r =>
    cases c with
    | none => rfl
    | some c => simp [takeDigits, (h c r rfl).1]

theorem takeDigits_append {ds : List Char} {i : Input} (digits : ∀ c ∈ ds, c.isDigit)
    (h : Stops i) : takeDigits (ds.map some ++ i) = (ds, i) := by
  induction ds with
  | nil => exact takeDigits_stops h
  | cons c ds ih =>
    simp [takeDigits, digits c (by simp), ih fun d hd => digits d (by simp [hd])]

theorem readFraction_stops {i : Input} (h : Stops i) : readFraction i = some ([], i) := by
  unfold readFraction
  split
  · next r => exact absurd rfl (h '.' r rfl).2.1
  · rfl

theorem readExponent_stops {i : Input} (h : Stops i) : readExponent i = some (none, i) := by
  unfold readExponent
  split
  · next r => exact absurd rfl (h 'e' r rfl).2.2.1
  · next r => exact absurd rfl (h 'E' r rfl).2.2.2
  · rfl

theorem readWhole_decimal (n : Nat) {i : Input} (h : Stops i) :
    readWhole ((Text.decimal n).map some ++ i) = some (n, i) := by
  have digits := takeDigits_append (fun c => Text.isDigit_of_mem_decimal (n := n)) h
  have value := Text.decimalValue_decimal n
  rcases Text.decimal_cases n with ⟨zero, text⟩ | ⟨-, c, r, text, other⟩
  · rw [zero] at text ⊢
    rw [text]
    rfl
  · rw [text] at digits value ⊢
    rw [List.map_cons, List.cons_append] at digits ⊢
    simp [readWhole, other, digits, value]

theorem readUnsigned_decimal (negative : Bool) (n : Nat) {i : Input} (h : Stops i) :
    readUnsigned negative ((Text.decimal n).map some ++ i) = some (⟨negative, n, [], none⟩, i) := by
  simp [readUnsigned, readWhole_decimal n h, readFraction_stops h, readExponent_stops h]

theorem chars_ofInt (k : Int) : (Number.ofInt k).chars = Text.decimalInt k := by
  by_cases negative : k < 0 <;> simp [Number.ofInt, Number.chars, Text.decimalInt, negative]

theorem readNumber_decimalInt (k : Int) {i : Input} (h : Stops i) :
    readNumber ((Text.decimalInt k).map some ++ i) = some (.ofInt k, i) := by
  have read := readUnsigned_decimal (decide (k < 0)) k.natAbs h
  by_cases negative : k < 0
  · simpa [Text.decimalInt, readNumber, negative, Number.ofInt] using read
  · obtain ⟨c, r, text⟩ := List.exists_cons_of_ne_nil (Text.decimal_ne_nil k.natAbs)
    have digit : c.isDigit := Text.isDigit_of_mem_decimal (n := k.natAbs) (by simp [text])
    have : c ≠ '-' := by
      rintro rfl
      cases digit
    simp only [negative, decide_false] at read
    rw [text] at read
    simpa [Text.decimalInt, text, readNumber, this, negative, Number.ofInt] using read

/-! ## String literals -/

def shortlyEscaped : List Char := ['"', '\\', '\x08', '\x0c', '\n', '\r', '\t']

theorem escaped_of_short {c : Char} (short : c ∈ shortlyEscaped) :
    ∃ e, escaped c = ['\\', e] ∧ e ≠ 'u' ∧ escape? e = some c := by
  simp only [shortlyEscaped, List.mem_cons, List.not_mem_nil, or_false] at short
  rcases short with rfl | rfl | rfl | rfl | rfl | rfl | rfl
  all_goals exact ⟨_, rfl, by decide, rfl⟩

theorem escaped_of_long {c : Char} (long : c ∉ shortlyEscaped) :
    escaped c = if c.toNat < 0x20 then ['\\', 'u', '0', '0'] ++ hexPair c.toNat else [c] := by
  simp only [shortlyEscaped, List.mem_cons, List.not_mem_nil, or_false, not_or] at long
  obtain ⟨quote, slash, backspace, feed, newline, carriage, tab⟩ := long
  rw [escaped, if_neg quote, if_neg slash, if_neg backspace, if_neg feed, if_neg newline,
    if_neg carriage, if_neg tab]

theorem escaped_cases (c : Char) :
    (∃ e, escaped c = ['\\', e] ∧ e ≠ 'u' ∧ escape? e = some c) ∨
    (c.toNat < 0x20 ∧ escaped c = ['\\', 'u', '0', '0'] ++ hexPair c.toNat) ∨
    (escaped c = [c] ∧ c ≠ '"' ∧ c ≠ '\\' ∧ 0x20 ≤ c.toNat) := by
  by_cases short : c ∈ shortlyEscaped
  · exact Or.inl (escaped_of_short short)
  · have text := escaped_of_long short
    by_cases low : c.toNat < 0x20
    · rw [if_pos low] at text
      exact Or.inr (Or.inl ⟨low, text⟩)
    · rw [if_neg low] at text
      refine Or.inr (Or.inr ⟨text, ?_, ?_, Nat.le_of_not_lt low⟩) <;> rintro rfl
      all_goals exact short (by decide)

theorem hexUnit?_hexPair {n : Nat} (h : n < 0x20) :
    hexUnit? '0' '0' (Text.digitChar (n / 16)) (Text.digitChar (n % 16)) = some n := by
  have : ∀ k : Fin 0x20,
      hexUnit? '0' '0' (Text.digitChar (k / 16)) (Text.digitChar (k % 16)) = some k.val := by
    decide
  exact this ⟨n, h⟩

theorem textOf?_unit {n : Nat} (ps : List Piece) (high : isHighSurrogate n = false)
    (low : isLowSurrogate n = false) :
    textOf? (.unit n :: ps) = (textOf? ps).map (Char.ofNat n :: ·) := by
  rcases ps with _ | ⟨c | l | _, ps⟩ <;> simp [textOf?, high, low]

/-- What stands for a character in a literal is one part of it, which denotes that character. -/
theorem readPieces_escaped (c : Char) : ∃ p : Piece,
    (∀ i, readPieces ((escaped c).map some ++ i) = (readPieces i).map fun x => (p :: x.1, x.2)) ∧
    ∀ ps, textOf? (p :: ps) = (textOf? ps).map (c :: ·) := by
  rcases escaped_cases c with ⟨e, text, other, means⟩ | ⟨low, text⟩ | ⟨text, quote, slash, high⟩
  · refine ⟨.char c, fun i => ?_, fun ps => rfl⟩
    rw [text]
    cases h : readPieces i <;> simp [readPieces, other, means, h]
  · refine ⟨.unit c.toNat, fun i => ?_, fun ps => ?_⟩
    · rw [text]
      cases h : readPieces i <;> simp [readPieces, hexPair, hexUnit?_hexPair low, h]
    · have high : isHighSurrogate c.toNat = false := by simp [isHighSurrogate]; omega
      have apart : isLowSurrogate c.toNat = false := by simp [isLowSurrogate]; omega
      rw [textOf?_unit ps high apart, Char.ofNat_toNat]
  · refine ⟨.char c, fun i => ?_, fun ps => rfl⟩
    rw [text]
    cases h : readPieces i <;> simp [readPieces, slash, Nat.not_lt.mpr high, h]

theorem readPieces_text (s : List Char) : ∃ ps : List Piece, textOf? ps = some s ∧
    ∀ i, readPieces ((s.flatMap escaped).map some ++ some '"' :: i) = some (ps, i) := by
  induction s with
  | nil => exact ⟨[], rfl, fun i => rfl⟩
  | cons c s ih =>
    obtain ⟨ps, means, reads⟩ := ih
    obtain ⟨p, step, denotes⟩ := readPieces_escaped c
    refine ⟨p :: ps, by rw [denotes, means]; rfl, fun i => ?_⟩
    rw [List.flatMap_cons, List.map_append, List.append_assoc, step, reads]
    rfl

/-- A literal behind its opening quotation mark. -/
theorem readString_text (s : String) (i : Input) :
    readString ((s.toList.flatMap escaped).map some ++ some '"' :: i) = some (some s, i) := by
  obtain ⟨ps, means, reads⟩ := readPieces_text s.toList
  simp [readString, reads, means]

/-! ## Values -/

/-- A value as data is written: every string denotes a text and every number is an integer. -/
inductive Value.Plain : Value → Prop
  | null : Plain .null
  | bool (b : Bool) : Plain (.bool b)
  | int (k : Int) : Plain (.int k)
  | text (s : String) : Plain (.text s)
  | array {vs : List Value} : (∀ v ∈ vs, v.Plain) → Plain (.array vs)
  | record {ms : List (String × Value)} : (∀ m ∈ ms, m.2.Plain) → Plain (.record ms)

structure Layout.Blank (l : Layout) : Prop where
  newline (depth : Nat) : ∀ c ∈ l.newline depth, isSpace (some c)
  colon : ∃ gap, l.colon = ':' :: gap ∧ ∀ c ∈ gap, isSpace (some c)

theorem Layout.compact_blank : Layout.compact.Blank :=
  ⟨fun _ _ h => absurd h List.not_mem_nil, [], rfl, fun _ h => absurd h List.not_mem_nil⟩

theorem Layout.pretty_blank : Layout.pretty.Blank := by
  refine ⟨fun depth c h => ?_, [' '], rfl, fun c h => ?_⟩
  · rcases List.mem_cons.mp h with rfl | h
    · rfl
    · rw [List.eq_of_mem_replicate h]
      rfl
  · rw [List.mem_singleton.mp h]
    rfl

variable {l : Layout}

theorem skipSpace_append {s : List Char} (blank : ∀ c ∈ s, isSpace (some c)) (i : Input) :
    skipSpace (s.map some ++ i) = skipSpace i := by
  rw [skipSpace, skipSpace, List.dropWhile_append_of_pos]
  intro c h
  obtain ⟨d, hd, rfl⟩ := List.mem_map.mp h
  exact blank d hd

theorem skipSpace_solid {c : Char} (solid : isSpace (some c) = false) (i : Input) :
    skipSpace (some c :: i) = some c :: i := by
  rw [skipSpace, List.dropWhile_cons_of_neg (by simp [solid])]

/-- Blanks in front of a value are passed over. -/
theorem readValue_append {s : List Char} (blank : ∀ c ∈ s, isSpace (some c)) (n : Nat) (i : Input) :
    readValue n (s.map some ++ i) = readValue n i := by
  cases n with
  | zero => simp [readValue]
  | succ n => rw [readValue, readValue, skipSpace_append blank]

theorem readItems_append {s : List Char} (blank : ∀ c ∈ s, isSpace (some c)) (n : Nat) (i : Input) :
    readItems n (s.map some ++ i) = readItems n i := by
  cases n with
  | zero => simp [readItems]
  | succ n => rw [readItems, readItems, readValue_append blank]

theorem readMembers_append {s : List Char} (blank : ∀ c ∈ s, isSpace (some c)) (n : Nat)
    (i : Input) : readMembers n (s.map some ++ i) = readMembers n i := by
  cases n with
  | zero => simp [readMembers]
  | succ n => rw [readMembers, readMembers, skipSpace_append blank]

theorem stops_space {c : Char} (space : isSpace (some c)) (i : Input) : Stops (some c :: i) := by
  intro d r h
  rw [List.cons.injEq, Option.some.injEq] at h
  rw [← h.1]
  simp only [isSpace, Bool.or_eq_true, beq_iff_eq] at space
  rcases space with ((rfl | rfl) | rfl) | rfl <;> decide

/-- The marks that end or separate values stand behind blanks. -/
theorem stops_append {s : List Char} (blank : ∀ c ∈ s, isSpace (some c)) {c : Char}
    (mark : c = ',' ∨ c = ']' ∨ c = '\x7d') (i : Input) : Stops (s.map some ++ some c :: i) := by
  cases s with
  | nil =>
    intro d r h
    rw [List.map_nil, List.nil_append, List.cons.injEq, Option.some.injEq] at h
    rw [← h.1]
    rcases mark with rfl | rfl | rfl <;> decide
  | cons b s => exact stops_space (blank b List.mem_cons_self) _

/-- Whatever stops a numeral may stand behind the text of the value, and the reader takes that text
alone. -/
def ReadsBack (l : Layout) (v : Value) : Prop :=
  ∀ depth n i, Stops i → (v.chars l depth).length ≤ n →
    readValue n ((v.chars l depth).map some ++ i) = some (v, i)

theorem readItems_chars (blank : l.Blank) {v : Value} {vs : List Value} (first : ReadsBack l v)
    (others : ∀ v ∈ vs, ReadsBack l v) (depth n : Nat) {close : List Char}
    (gap : ∀ c ∈ close, isSpace (some c)) (i : Input)
    (fuel : 1 + (v.chars l depth).length + (itemChars l depth vs).length ≤ n) :
    readItems n ((v.chars l depth).map some ++ ((itemChars l depth vs).map some ++
      (close.map some ++ some ']' :: i))) = some (v :: vs, i) := by
  induction vs generalizing v n with
  | nil =>
    obtain ⟨n, rfl⟩ : ∃ m, n = m + 1 := ⟨n - 1, by omega⟩
    have stops : Stops (close.map some ++ some ']' :: i) := stops_append gap (by simp) i
    have skip : skipSpace (close.map some ++ some ']' :: i) = some ']' :: i := by
      rw [skipSpace_append gap]
      rfl
    simp [readItems, itemChars, first depth n _ stops (by omega), skip]
  | cons w ws ih =>
    obtain ⟨n, rfl⟩ : ∃ m, n = m + 1 := ⟨n - 1, by omega⟩
    have rest := ih (others w List.mem_cons_self) (fun v h => others v (List.mem_cons_of_mem w h)) n
      (by simp only [itemChars, List.cons_append, List.length_cons, List.length_append] at fuel
          omega)
    have stops : ∀ r, Stops (some ',' :: r) := fun r => stops_append (s := []) (by simp) (by simp) r
    simp only [readItems, itemChars, List.cons_append, List.map_cons, List.map_append,
      List.append_assoc, first depth n _ (stops _) (by omega)]
    simp [skipSpace, isSpace, readItems_append (blank.newline depth), rest]

/-- A member is its key, a colon and its value. It is the last one, or a comma stands behind it. -/
theorem readMembers_last (blank : l.Blank) (k : String) {n : Nat} {i r r' : Input} {v : Value}
    (value : readValue n i = some (v, r)) (close : skipSpace r = some '\x7d' :: r') :
    readMembers (n + 1) ((literal (some k)).map some ++ (l.colon.map some ++ i)) =
      some ([(some k, v)], r') := by
  obtain ⟨gap, colon, spaces⟩ := blank.colon
  have quote := skipSpace_solid (c := '"') (by decide)
  have mark := skipSpace_solid (c := ':') (by decide)
  simp [readMembers, literal, colon, quote, mark, readString_text, readValue_append spaces, value,
    close]

theorem readMembers_next (blank : l.Blank) (k : String) {n : Nat} {i r r' r'' : Input} {v : Value}
    {ms : List (Option String × Value)} (value : readValue n i = some (v, r))
    (comma : skipSpace r = some ',' :: r') (rest : readMembers n r' = some (ms, r'')) :
    readMembers (n + 1) ((literal (some k)).map some ++ (l.colon.map some ++ i)) =
      some ((some k, v) :: ms, r'') := by
  obtain ⟨gap, colon, spaces⟩ := blank.colon
  have quote := skipSpace_solid (c := '"') (by decide)
  have mark := skipSpace_solid (c := ':') (by decide)
  simp [readMembers, literal, colon, quote, mark, readString_text, readValue_append spaces, value,
    comma, rest]

theorem readMembers_chars (blank : l.Blank) {k : String} {v : Value} {ms : List (String × Value)}
    (first : ReadsBack l v) (others : ∀ m ∈ ms, ReadsBack l m.2) (depth n : Nat) {close : List Char}
    (gap : ∀ c ∈ close, isSpace (some c)) (i : Input)
    (fuel : 1 + (v.chars l depth).length +
      (memberChars l depth (ms.map fun m => (some m.1, m.2))).length ≤ n) :
    readMembers n ((literal (some k)).map some ++ (l.colon.map some ++ ((v.chars l depth).map some ++
      ((memberChars l depth (ms.map fun m => (some m.1, m.2))).map some ++
        (close.map some ++ some '\x7d' :: i))))) =
      some ((some k, v) :: ms.map fun m => (some m.1, m.2), i) := by
  induction ms generalizing k v n with
  | nil =>
    obtain ⟨n, rfl⟩ : ∃ m, n = m + 1 := ⟨n - 1, by omega⟩
    have stops : Stops (close.map some ++ some '\x7d' :: i) := stops_append gap (by simp) i
    have skip : skipSpace (close.map some ++ some '\x7d' :: i) = some '\x7d' :: i := by
      rw [skipSpace_append gap]
      rfl
    exact readMembers_last blank k (first depth n _ stops (by omega)) skip
  | cons m ms ih =>
    obtain ⟨n, rfl⟩ : ∃ m, n = m + 1 := ⟨n - 1, by omega⟩
    have rest := ih (k := m.1) (others m List.mem_cons_self)
      (fun v h => others v (List.mem_cons_of_mem m h)) n
      (by simp only [memberChars, List.map_cons, List.cons_append, List.length_cons,
            List.length_append] at fuel; omega)
    have stops : ∀ r, Stops (some ',' :: r) := fun r => stops_append (s := []) (by simp) (by simp) r
    simp only [memberChars, List.cons_append, List.map_cons, List.map_append, List.append_assoc]
    refine readMembers_next blank k (first depth n _ (stops _) (by omega))
      (skipSpace_solid (by decide) _) ?_
    rw [readMembers_append (blank.newline depth)]
    exact rest

def numeralFront : List Char := ['-', '0', '1', '2', '3', '4', '5', '6', '7', '8', '9']

theorem decimalInt_front (k : Int) : ∃ c r, Text.decimalInt k = c :: r ∧ c ∈ numeralFront := by
  by_cases negative : k < 0
  · exact ⟨'-', Text.decimal k.natAbs, by simp [Text.decimalInt, negative], by decide⟩
  · obtain ⟨c, r, text⟩ := List.exists_cons_of_ne_nil (Text.decimal_ne_nil k.natAbs)
    refine ⟨c, r, by simp [Text.decimalInt, negative, text], ?_⟩
    have digit : c.isDigit := Text.isDigit_of_mem_decimal (n := k.natAbs) (by simp [text])
    have range : 48 ≤ c.toNat ∧ c.toNat ≤ 57 := by
      simpa [Char.isDigit, UInt32.le_iff_toNat_le] using digit
    have : ∀ d : Fin 10, Char.ofNat (48 + d) ∈ numeralFront := by decide
    have here := this ⟨c.toNat - 48, by omega⟩
    rwa [Nat.add_sub_cancel' range.1, Char.ofNat_toNat] at here

theorem readValue_numeral {c : Char} (front : c ∈ numeralFront) (n : Nat) (i : Input) :
    readValue (n + 1) (some c :: i) =
      (readNumber (some c :: i)).map fun x => (.number x.1, x.2) := by
  simp only [numeralFront, List.mem_cons, List.not_mem_nil, or_false] at front
  rcases front with rfl | rfl | rfl | rfl | rfl | rfl | rfl | rfl | rfl | rfl | rfl <;> rfl

theorem numeralFront_solid {c : Char} (front : c ∈ numeralFront) :
    isSpace (some c) = false ∧ c ≠ ']' := by
  simp only [numeralFront, List.mem_cons, List.not_mem_nil, or_false] at front
  rcases front with rfl | rfl | rfl | rfl | rfl | rfl | rfl | rfl | rfl | rfl | rfl <;> decide

/-- The first character of a value is no blank and ends no array. -/
theorem Value.chars_front (l : Layout) (depth : Nat) {v : Value} (h : v.Plain) :
    ∃ c r, v.chars l depth = c :: r ∧ isSpace (some c) = false ∧ c ≠ ']' := by
  cases h with
  | null => exact ⟨_, _, rfl, rfl, by decide⟩
  | bool b => cases b <;> exact ⟨_, _, rfl, rfl, by decide⟩
  | int k =>
    obtain ⟨c, r, text, front⟩ := decimalInt_front k
    exact ⟨c, r, by rw [Value.int, Value.chars, chars_ofInt, text], numeralFront_solid front⟩
  | text s => exact ⟨_, _, rfl, rfl, by decide⟩
  | @array vs h => cases vs <;> exact ⟨_, _, rfl, rfl, by decide⟩
  | @record ms h => cases ms <;> exact ⟨_, _, rfl, rfl, by decide⟩

theorem Value.length_chars_pos (l : Layout) (depth : Nat) {v : Value} (h : v.Plain) :
    0 < (v.chars l depth).length := by
  obtain ⟨c, r, text, -⟩ := v.chars_front l depth h
  rw [text]
  exact Nat.succ_pos _

theorem readValue_bracket {s : List Char} (blank : ∀ c ∈ s, isSpace (some c)) {c : Char}
    (solid : isSpace (some c) = false) (other : c ≠ ']') (n : Nat) (i : Input) :
    readValue (n + 1) (some '[' :: (s.map some ++ some c :: i)) =
      (readItems n (some c :: i)).map fun x => (.array x.1, x.2) := by
  have skip : skipSpace (s.map some ++ some c :: i) = some c :: i := by
    rw [skipSpace_append blank, skipSpace_solid solid]
  have front : skipSpace (some '[' :: (s.map some ++ some c :: i)) =
      some '[' :: (s.map some ++ some c :: i) := rfl
  rw [readValue, front]
  simp only [skip]
  split
  · next h => exact absurd (by simpa using congrArg List.head? h) other
  · rfl

theorem readValue_brace {s : List Char} (blank : ∀ c ∈ s, isSpace (some c)) (n : Nat) (i : Input) :
    readValue (n + 1) (some '\x7b' :: (s.map some ++ some '"' :: i)) =
      (readMembers n (some '"' :: i)).map fun x => (.object x.1, x.2) := by
  have skip : skipSpace (s.map some ++ some '"' :: i) = some '"' :: i := by
    rw [skipSpace_append blank]
    rfl
  have front : skipSpace (some '\x7b' :: (s.map some ++ some '"' :: i)) =
      some '\x7b' :: (s.map some ++ some '"' :: i) := rfl
  rw [readValue, front]
  simp only [skip]
  rfl

/-- A value reads back from its text. -/
theorem readsBack (blank : l.Blank) {v : Value} (h : v.Plain) : ReadsBack l v := by
  induction h with
  | null =>
    intro depth n i stops fuel
    obtain ⟨n, rfl⟩ : ∃ m, n = m + 1 := ⟨n - 1, by simp [Value.chars] at fuel; omega⟩
    rfl
  | bool b =>
    intro depth n i stops fuel
    obtain ⟨n, rfl⟩ : ∃ m, n = m + 1 := ⟨n - 1, by cases b <;> simp [Value.chars] at fuel <;> omega⟩
    cases b <;> rfl
  | int k =>
    intro depth n i stops fuel
    have some := Value.length_chars_pos l depth (.int k)
    obtain ⟨n, rfl⟩ : ∃ m, n = m + 1 := ⟨n - 1, by omega⟩
    obtain ⟨c, r, text, front⟩ := decimalInt_front k
    have read := readNumber_decimalInt k stops
    rw [Value.int, Value.chars, chars_ofInt]
    rw [text, List.map_cons, List.cons_append] at read ⊢
    rw [readValue_numeral front, read]
    rfl
  | text s =>
    intro depth n i stops fuel
    obtain ⟨n, rfl⟩ : ∃ m, n = m + 1 :=
      ⟨n - 1, by simp [Value.chars, Value.text, literal] at fuel; omega⟩
    simp [Value.chars, Value.text, literal, readValue, skipSpace, isSpace, readString_text]
  | @array vs plain ih =>
    intro depth n i stops fuel
    have some := Value.length_chars_pos l depth (.array plain)
    obtain ⟨n, rfl⟩ : ∃ m, n = m + 1 := ⟨n - 1, by omega⟩
    cases vs with
    | nil => rfl
    | cons v vs =>
      obtain ⟨c, r, text, solid, other⟩ := v.chars_front l (depth + 1) (plain v List.mem_cons_self)
      have read := readItems_chars blank (ih v List.mem_cons_self)
        (fun v h => ih v (List.mem_cons_of_mem _ h)) (depth + 1) n (blank.newline depth) i
        (by simp only [Value.chars, List.length_cons, List.length_append] at fuel; omega)
      simp only [Value.chars, text, List.map_cons, List.map_append, List.cons_append,
        List.append_assoc, List.map_nil, List.nil_append] at read ⊢
      rw [readValue_bracket (blank.newline _) solid other, read]
      rfl
  | @record ms plain ih =>
    intro depth n i stops fuel
    have some := Value.length_chars_pos l depth (.record plain)
    obtain ⟨n, rfl⟩ : ∃ m, n = m + 1 := ⟨n - 1, by omega⟩
    cases ms with
    | nil => rfl
    | cons m ms =>
      have read := readMembers_chars blank (k := m.1) (ih m List.mem_cons_self)
        (fun m h => ih m (List.mem_cons_of_mem _ h)) (depth + 1) n (blank.newline depth) i
        (by simp only [Value.record, Value.chars, List.map_cons, List.length_cons,
              List.length_append] at fuel; omega)
      simp only [Value.record, Value.chars, literal, List.map_cons, List.map_append,
        List.cons_append, List.append_assoc, List.map_nil, List.nil_append] at read ⊢
      rw [readValue_brace (blank.newline _), read]
      rfl

/-- The text of a value denotes that value, in either layout. -/
theorem read?_chars (blank : l.Blank) {v : Value} (h : v.Plain) :
    read? ((v.chars l 0).map some) = some v := by
  have read := readsBack blank h 0 (2 * ((v.chars l 0).map some).length + 2) [] stops_nil
    (by rw [List.length_map]; omega)
  rw [List.append_nil] at read
  rw [read?, read]
  rfl

theorem ofText?_pretty {v : Value} (h : v.Plain) : ofText? v.pretty = some v := by
  rw [ofText?, Value.pretty, String.toList_ofList]
  exact read?_chars Layout.pretty_blank h

theorem ofText?_compact {v : Value} (h : v.Plain) : ofText? v.compact = some v := by
  rw [ofText?, Value.compact, String.toList_ofList]
  exact read?_chars Layout.compact_blank h

end BridgeKeeper.Json
