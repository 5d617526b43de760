import BridgeKeeper.Json.Value

/-!
Reading JSON values as data. A record may be an object, in which each field occurs at most once
and other keys are passed over, or an array of its fields in order. Nothing is converted: a text
is a string, a number an integer in range, and `null` is neither.
-/
namespace BridgeKeeper.Json

def Value.text? : Value → Option String
  | .string t => t
  | _ => none

def Value.bool? : Value → Option Bool
  | .bool b => some b
  | _ => none

def Value.int? : Value → Option Int
  | .number n => n.integer?
  | _ => none

/-- An integer from `low` to `high`. -/
def Value.intIn? (low high : Int) (v : Value) : Option Int :=
  v.int?.filter fun i => low ≤ i && i ≤ high

def Value.uint16? (v : Value) : Option UInt16 :=
  (v.intIn? 0 (UInt16.size - 1)).map fun i => UInt16.ofNat i.toNat

def Value.uint32? (v : Value) : Option UInt32 :=
  (v.intIn? 0 (UInt32.size - 1)).map fun i => UInt32.ofNat i.toNat

def Value.uint64? (v : Value) : Option UInt64 :=
  (v.intIn? 0 (UInt64.size - 1)).map fun i => UInt64.ofNat i.toNat

def Value.int32? (v : Value) : Option Int32 :=
  (v.intIn? Int32.minValue.toInt Int32.maxValue.toInt).map Int32.ofInt

def Value.int64? (v : Value) : Option Int64 :=
  (v.intIn? Int64.minValue.toInt Int64.maxValue.toInt).map Int64.ofInt

def Value.list? {α : Type} (item : Value → Option α) : Value → Option (List α)
  | .array vs => vs.mapM item
  | _ => none

/-- Looks up a field by name. -/
abbrev Fields := String → Option Value

/-- The members of an object by key, where every key is a text. -/
def keyed? (ms : List (Option String × Value)) : Option (List (String × Value)) :=
  ms.mapM fun m => m.1.map (·, m.2)

/-- The fields `names` of an object: refused when one of them occurs twice. -/
def memberFields? (names : List String) (ms : List (String × Value)) : Option Fields :=
  if names.all fun n => (ms.filter (·.1 == n)).length ≤ 1 then some fun n => ms.lookup n else none

/-- The fields `names` of a record in either form. An array may end early but not late. -/
def Value.fields? (names : List String) : Value → Option Fields
  | .array vs => if vs.length ≤ names.length then some fun n => (names.zip vs).lookup n else none
  | .object ms => do memberFields? names (← keyed? ms)
  | _ => none

/-- The same value with a second name for a field replaced by its first. -/
def Value.renameKey (other name : String) : Value → Value
  | .object ms => .object (ms.map fun m => (m.1.map fun k => if k = other then name else k, m.2))
  | v => v

/-- A field without which the record is refused. -/
def Fields.required {α : Type} (f : Fields) (name : String) (read : Value → Option α) : Option α :=
  f name >>= read

/-- A field that has a default. -/
def Fields.optional {α : Type} (f : Fields) (name : String) (read : Value → Option α) (default : α) :
    Option α :=
  match f name with
  | none => some default
  | some v => read v

mutual

/-- A value that can be held whole: every string denotes a text, no number overflows, and arrays
and objects nest at most `depth` deep. -/
def Value.isHeld (depth : Nat) : Value → Bool
  | .null => true
  | .bool _ => true
  | .number n => !n.overflows
  | .string s => s.isSome
  | .array vs => 0 < depth && areHeld (depth - 1) vs
  | .object ms => 0 < depth && membersHeld (depth - 1) ms

def areHeld (depth : Nat) : List Value → Bool
  | [] => true
  | v :: vs => v.isHeld depth && areHeld depth vs

def membersHeld (depth : Nat) : List (Option String × Value) → Bool
  | [] => true
  | (k, v) :: ms => k.isSome && v.isHeld depth && membersHeld depth ms

end

end BridgeKeeper.Json
