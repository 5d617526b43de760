import BridgeKeeper.Text.Decimal

/-!
JSON values as they are written. Numbers keep their digits and objects keep all their members in
order, a repeated key included: which of them count is decided where a value is read as data.
-/
namespace BridgeKeeper.Json

/-- A numeral: sign, whole part, digits behind the point, and sign and digits of the exponent. -/
structure Number where
  negative : Bool
  whole : Nat
  fraction : List Char
  exponent : Option (Bool × List Char)

/-- A JSON value. `string none` is a literal that is well formed but denotes no text: it holds a
surrogate without its partner, or bytes that are not UTF-8. -/
inductive Value where
  | null
  | bool (b : Bool)
  | number (n : Number)
  | string (text : Option String)
  | array (items : List Value)
  | object (members : List (Option String × Value))

def Number.ofInt (i : Int) : Number :=
  ⟨decide (i < 0), i.natAbs, [], none⟩

/-- The integer that a numeral without fraction and exponent denotes. Minus zero is not an
integer. -/
def Number.integer? (n : Number) : Option Int :=
  if n.fraction.isEmpty && n.exponent.isNone && !(n.negative && n.whole == 0) then
    some (if n.negative then -(n.whole : Int) else n.whole)
  else none

/-- The longest run of leading digits whose value stays below `2 ^ 64`, starting from the value
`n`, and how many of the digits were read. -/
def takeSignificant : Nat → List Char → Nat × Nat
  | n, [] => (n, 0)
  | n, c :: r =>
    let m := n * 10 + Text.digitValue c
    if m < UInt64.size then
      let (v, k) := takeSignificant m r
      (v, k + 1)
    else (n, 0)

/-- The nearest number with 53 significant bits, ties to even. -/
def roundToDouble (n : Nat) : Nat :=
  let drop := n.log2 - 52
  let unit := Nat.pow 2 drop
  let q := n / unit
  let r := n % unit
  let up := 2 * r > unit || (2 * r == unit && q % 2 == 1)
  (if up then q + 1 else q) * unit

/-- A numeral whose size is beyond every double: its significant digits, rounded, times the
power of ten, rounded, reach the bound at which a product rounds to infinity. -/
def Number.overflows (n : Number) : Bool :=
  let digits := Text.decimal n.whole
  let (front, used) := takeSignificant 0 digits
  let (significand, places) := takeSignificant front n.fraction
  let shift : Int := (digits.length - used : Nat) - (places : Int)
  let finish (e : Int) : Bool :=
    if e < 0 || significand == 0 then false
    else if 308 < e then true
    else
      Nat.pow 2 1024 - Nat.pow 2 970 ≤
        roundToDouble significand * roundToDouble (Nat.pow 10 e.toNat)
  match n.exponent with
  | none => if n.fraction.isEmpty && used == digits.length then false else finish shift
  | some (negative, ds) =>
    let e := Text.decimalValue ds
    if negative then finish (shift - e)
    else if e < Nat.pow 2 31 then finish (shift + e)
    else significand != 0

def Value.text (s : String) : Value := .string (some s)

def Value.int (i : Int) : Value := .number (.ofInt i)

def Value.nat (n : Nat) : Value := .int n

/-- An object whose keys are the given texts. -/
def Value.record (members : List (String × Value)) : Value :=
  .object (members.map fun m => (some m.1, m.2))

end BridgeKeeper.Json
