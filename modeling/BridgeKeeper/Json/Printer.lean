import BridgeKeeper.Json.Value

/-!
Writing JSON text, on one line or indented by two spaces. Only the quotation mark, the backslash
and the controls below U+0020 are escaped; members keep their order.
-/
namespace BridgeKeeper.Json

def hexPair (n : Nat) : List Char :=
  [Text.digitChar (n / 16), Text.digitChar (n % 16)]

def escaped (c : Char) : List Char :=
  if c = '"' then ['\\', '"']
  else if c = '\\' then ['\\', '\\']
  else if c = '\x08' then ['\\', 'b']
  else if c = '\x0c' then ['\\', 'f']
  else if c = '\n' then ['\\', 'n']
  else if c = '\r' then ['\\', 'r']
  else if c = '\t' then ['\\', 't']
  else if c.toNat < 0x20 then ['\\', 'u', '0', '0'] ++ hexPair c.toNat
  else [c]

/-- A string literal. The literal without a text is a lone surrogate. -/
def literal : Option String → List Char
  | some s => '"' :: s.toList.flatMap escaped ++ ['"']
  | none => ['"', '\\', 'u', 'd', '8', '0', '0', '"']

def Number.chars (n : Number) : List Char :=
  (if n.negative then ['-'] else []) ++ Text.decimal n.whole ++
    (if n.fraction.isEmpty then [] else '.' :: n.fraction) ++
    match n.exponent with
    | none => []
    | some (negative, ds) => 'e' :: (if negative then '-' :: ds else ds)

/-- What stands between the parts of an array or object at some depth. -/
structure Layout where
  newline : Nat → List Char
  colon : List Char

/-- Everything on one line without spaces. -/
def Layout.compact : Layout := ⟨fun _ => [], [':']⟩

/-- Each item on a line of its own, two spaces deeper than what holds it. -/
def Layout.pretty : Layout := ⟨fun n => '\n' :: List.replicate (2 * n) ' ', [':', ' ']⟩

mutual

def Value.chars (l : Layout) (depth : Nat) : Value → List Char
  | .null => ['n', 'u', 'l', 'l']
  | .bool true => ['t', 'r', 'u', 'e']
  | .bool false => ['f', 'a', 'l', 's', 'e']
  | .number n => n.chars
  | .string s => literal s
  | .array [] => ['[', ']']
  | .array (v :: vs) =>
    '[' :: l.newline (depth + 1) ++ v.chars l (depth + 1) ++ itemChars l (depth + 1) vs ++
      l.newline depth ++ [']']
  | .object [] => ['\x7b', '\x7d']
  | .object ((k, v) :: ms) =>
    '\x7b' :: l.newline (depth + 1) ++ literal k ++ l.colon ++ v.chars l (depth + 1) ++
      memberChars l (depth + 1) ms ++ l.newline depth ++ ['\x7d']

/-- The items after the first, each behind a comma. -/
def itemChars (l : Layout) (depth : Nat) : List Value → List Char
  | [] => []
  | v :: vs => ',' :: l.newline depth ++ v.chars l depth ++ itemChars l depth vs

/-- The members after the first, each behind a comma. -/
def memberChars (l : Layout) (depth : Nat) : List (Option String × Value) → List Char
  | [] => []
  | (k, v) :: ms =>
    ',' :: l.newline depth ++ literal k ++ l.colon ++ v.chars l depth ++ memberChars l depth ms

end

def Value.compact (v : Value) : String :=
  String.ofList (v.chars .compact 0)

def Value.pretty (v : Value) : String :=
  String.ofList (v.chars .pretty 0)

end BridgeKeeper.Json
