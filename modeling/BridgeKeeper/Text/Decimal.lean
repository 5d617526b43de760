/-!
Decimal and hexadecimal numerals as lists of digits. Main statements: the numeral of a number
denotes that number, and consists of digits, of which the first is zero for zero only.
-/
namespace BridgeKeeper.Text

/-- The digit for `n`, in lower case from ten on; meant for `n < 16`. -/
def digitChar (n : Nat) : Char :=
  if n < 10 then Char.ofNat (48 + n) else Char.ofNat (87 + n)

/-- The decimal numeral of `n`, without a superfluous zero in front. -/
def decimal (n : Nat) : List Char :=
  if n < 10 then [digitChar n] else decimal (n / 10) ++ [digitChar (n % 10)]

/-- The lower-case hexadecimal numeral of `n`. -/
def hexadecimal (n : Nat) : List Char :=
  if n < 16 then [digitChar n] else hexadecimal (n / 16) ++ [digitChar (n % 16)]

/-- The value of a digit; meant for the digits `0` to `9`. -/
def digitValue (c : Char) : Nat := c.toNat - 48

/-- The number that a string of decimal digits denotes, leading zeros allowed. -/
def decimalValue (ds : List Char) : Nat :=
  ds.foldl (fun n c => n * 10 + digitValue c) 0

/-- The value of a hexadecimal digit in either case. -/
def hexValue? (c : Char) : Option Nat :=
  if c.isDigit then some (c.toNat - 48)
  else if 'a' ≤ c && c ≤ 'f' then some (c.toNat - 87)
  else if 'A' ≤ c && c ≤ 'F' then some (c.toNat - 55)
  else none

/-- The numeral of an integer: a minus sign where it is negative, then its size. -/
def decimalInt (i : Int) : List Char :=
  if i < 0 then '-' :: decimal i.natAbs else decimal i.natAbs

/-- The decimal numeral as text. -/
def numeral (n : Nat) : String := String.ofList (decimal n)

/-- The number below 65536 that a text denotes: decimal digits with any number of leading zeros,
behind an optional plus sign. -/
def word16? (s : List Char) : Option UInt16 :=
  let ds := match s with
    | '+' :: r => r
    | r => r
  if !ds.isEmpty && ds.all Char.isDigit && decimalValue ds < 65536 then
    some (UInt16.ofNat (decimalValue ds))
  else none

theorem digitValue_digitChar {n : Nat} (h : n < 10) : digitValue (digitChar n) = n := by
  have : ∀ k : Fin 10, digitValue (digitChar k) = k := by decide
  exact this ⟨n, h⟩

theorem decimalValue_append_singleton (ds : List Char) (c : Char) :
    decimalValue (ds ++ [c]) = decimalValue ds * 10 + digitValue c := by
  simp [decimalValue]

theorem decimalValue_decimal (n : Nat) : decimalValue (decimal n) = n := by
  fun_induction decimal n with
  | case1 n h => simp [decimalValue, digitValue_digitChar h]
  | case2 n h ih =>
    rw [decimalValue_append_singleton, ih, digitValue_digitChar (by omega)]
    omega

theorem decimal_ne_nil (n : Nat) : decimal n ≠ [] := by
  unfold decimal
  split <;> simp

theorem isDigit_digitChar {n : Nat} (h : n < 10) : (digitChar n).isDigit := by
  have : ∀ k : Fin 10, (digitChar k).isDigit := by decide
  exact this ⟨n, h⟩

theorem isDigit_of_mem_decimal {n : Nat} {c : Char} (h : c ∈ decimal n) : c.isDigit := by
  fun_induction decimal n with
  | case1 n small =>
    rw [List.mem_singleton.mp h]
    exact isDigit_digitChar small
  | case2 n large ih =>
    rcases List.mem_append.mp h with h | h
    · exact ih h
    · rw [List.mem_singleton.mp h]
      exact isDigit_digitChar (by omega)

/-- Only the numeral of zero starts with a zero. -/
theorem decimal_cases (n : Nat) :
    n = 0 ∧ decimal n = ['0'] ∨ n ≠ 0 ∧ ∃ c r, decimal n = c :: r ∧ c ≠ '0' := by
  fun_induction decimal n with
  | case1 n small =>
    by_cases zero : n = 0
    · exact Or.inl ⟨zero, by rw [zero]; rfl⟩
    · refine Or.inr ⟨zero, _, _, rfl, ?_⟩
      have : ∀ k : Fin 10, k ≠ 0 → digitChar k ≠ '0' := by decide
      exact this ⟨n, small⟩ (by simpa [Fin.ext_iff] using zero)
  | case2 n large ih =>
    rcases ih with ⟨zero, -⟩ | ⟨-, c, r, front, other⟩
    · omega
    · exact Or.inr ⟨by omega, c, r ++ [digitChar (n % 10)], by rw [front]; rfl, other⟩

end BridgeKeeper.Text
