/-!
UTF-8. Decoding cuts any byte string into pieces: a character, or `none` for a longest run of
bytes that starts a character and is cut short, and for a byte that starts none.
-/
namespace BridgeKeeper.Text.Utf8

/-- The one to four bytes of a character. -/
def encodeChar (c : Char) : List UInt8 :=
  let n := c.toNat
  if n < 0x80 then [n.toUInt8]
  else if n < 0x800 then [(0xC0 + n / 0x40).toUInt8, (0x80 + n % 0x40).toUInt8]
  else if n < 0x10000 then
    [(0xE0 + n / 0x1000).toUInt8, (0x80 + n / 0x40 % 0x40).toUInt8, (0x80 + n % 0x40).toUInt8]
  else
    [(0xF0 + n / 0x40000).toUInt8, (0x80 + n / 0x1000 % 0x40).toUInt8,
      (0x80 + n / 0x40 % 0x40).toUInt8, (0x80 + n % 0x40).toUInt8]

def encode (s : List Char) : List UInt8 :=
  s.flatMap encodeChar

/-- A character begun and not ended: its bits so far, how many bytes it still needs, and the
range of the next one. -/
structure Pending where
  bits : Nat
  need : Nat
  low : Nat
  high : Nat

/-- The first byte of a piece. -/
def first (b : Nat) : List (Option Char) × Option Pending :=
  if b < 0x80 then ([some (Char.ofNat b)], none)
  else if b < 0xC2 then ([none], none)
  else if b < 0xE0 then ([], some ⟨b - 0xC0, 1, 0x80, 0xBF⟩)
  else if b = 0xE0 then ([], some ⟨0, 2, 0xA0, 0xBF⟩)
  else if b = 0xED then ([], some ⟨13, 2, 0x80, 0x9F⟩)
  else if b < 0xF0 then ([], some ⟨b - 0xE0, 2, 0x80, 0xBF⟩)
  else if b = 0xF0 then ([], some ⟨0, 3, 0x90, 0xBF⟩)
  else if b < 0xF4 then ([], some ⟨b - 0xF0, 3, 0x80, 0xBF⟩)
  else if b = 0xF4 then ([], some ⟨4, 3, 0x80, 0x8F⟩)
  else ([none], none)

/-- One byte: the pieces that it ends, and the character it leaves open. A byte that the open
character cannot take ends that piece and starts the next. -/
def step (p : Option Pending) (b : Nat) : List (Option Char) × Option Pending :=
  match p with
  | none => first b
  | some p =>
    if p.low ≤ b ∧ b ≤ p.high then
      let bits := p.bits * 0x40 + (b - 0x80)
      if p.need = 1 then ([some (Char.ofNat bits)], none)
      else ([], some ⟨bits, p.need - 1, 0x80, 0xBF⟩)
    else
      let (pieces, q) := first b
      (none :: pieces, q)

def decodeFrom : Option Pending → List UInt8 → List (Option Char)
  | none, [] => []
  | some _, [] => [none]
  | p, b :: r =>
    let (pieces, q) := step p b.toNat
    pieces ++ decodeFrom q r

/-- The pieces of a byte string. -/
def decode (bytes : List UInt8) : List (Option Char) :=
  decodeFrom none bytes

/-- The text of a byte string that is UTF-8 throughout. -/
def decode? (bytes : List UInt8) : Option (List Char) :=
  (decode bytes).mapM id

/-- The text of any byte string, with U+FFFD for each piece that is no character. -/
def decodeLossy (bytes : List UInt8) : List Char :=
  (decode bytes).map (·.getD '\uFFFD')

end BridgeKeeper.Text.Utf8
