import BridgeKeeper.Text.Decimal

/-!
Reading Punycode: text in ASCII letters, digits and hyphens that stands for text of any characters.
The ASCII characters come first; behind the last hyphen follow the others in the order of their code
points, each as a number that says how far it lies from the one before and where it is put in. The
numbers have digits to the base 36 and end themselves: which digit is the last one depends on the
numbers before.
-/
namespace BridgeKeeper.Url.Punycode

def base : Nat := 36
def leastThreshold : Nat := 1
def greatestThreshold : Nat := 26

/-- From which number on a text is refused. -/
def limit : Nat := UInt32.size

/-- Letters in either case stand for the digits up to 25, decimal digits for the others. -/
def digit? (c : Char) : Option Nat :=
  if c.isDigit then some (c.toNat - 48 + 26)
  else if c.isAlpha then some (c.toLower.toNat - 97)
  else none

/-- A digit below its threshold is the last one of its number. -/
def threshold (k bias : Nat) : Nat :=
  min greatestThreshold (max leastThreshold (k - bias))

/-- How often a difference is divided before the next bias is taken from it, as a shift of the bias,
and what is left of it. -/
def damp (delta shift : Nat) : Nat × Nat :=
  if 455 < delta then damp (delta / 35) (shift + base) else (delta, shift)
termination_by delta
decreasing_by omega

/-- The bias behind a number, given how many characters there are then. -/
def adapt (delta count : Nat) (isFirst : Bool) : Nat :=
  let delta := if isFirst then delta / 700 else delta / 2
  let (delta, shift) := damp (delta + delta / count) 0
  shift + base * delta / (delta + 38)

/-- Adds the number at the front of a text to `i`, and gives what follows it. -/
def readNumber (bias : Nat) : List Char → Nat → Nat → Nat → Option (Nat × List Char)
  | [], _, _, _ => none
  | c :: r, k, weight, i =>
    match digit? c with
    | none => none
    | some d =>
      let t := threshold k bias
      if limit ≤ i + d * weight then none
      else if d < t then some (i + d * weight, r)
      else if limit ≤ weight * (base - t) then none
      else readNumber bias r (k + base) (weight * (base - t)) (i + d * weight)

theorem length_of_readNumber {bias : Nat} {s : List Char} {k weight i : Nat}
    {x : Nat × List Char} (h : readNumber bias s k weight i = some x) : x.2.length < s.length := by
  induction s generalizing k weight i with
  | nil => simp [readNumber] at h
  | cons c r ih =>
    simp only [readNumber] at h
    split at h
    · simp at h
    · split at h
      · simp at h
      · split at h
        · simp only [Option.some.injEq] at h
          simp [← h]
        · split at h
          · simp at h
          · have := ih h
            simp only [List.length_cons]
            omega

/-- Puts in the characters that the numbers of a text stand for. The first of them lies from `point`
on, and from the place `i` on. -/
def insertAll (s : List Char) (text : List Char) (point i bias : Nat) : Option (List Char) :=
  if s.isEmpty then some text
  else
    match _h : readNumber bias s base 1 i with
    | none => none
    | some (j, rest) =>
      let count := text.length + 1
      let next := point + j / count
      if next.isValidChar then
        insertAll rest (text.insertIdx (j % count) (Char.ofNat next)) next (j % count + 1)
          (adapt (j - i) count (i == 0))
      else none
termination_by s.length
decreasing_by exact length_of_readNumber _h

/-- The text that stands for another one; a hyphen in front is no mark behind ASCII characters. -/
def decode? (s : List Char) : Option (List Char) :=
  match s.reverse.span (· != '-') with
  | (numbers, _ :: c :: before) => insertAll numbers.reverse (c :: before).reverse 0x80 0 72
  | _ => insertAll s [] 0x80 0 72

end BridgeKeeper.Url.Punycode
