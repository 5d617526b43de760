/-!
Tables as functions, which are changed at one argument at a time.
-/
namespace BridgeKeeper

/-- A function changed at one argument. -/
def put {α β : Type} [DecidableEq α] (f : α → β) (a : α) (b : β) : α → β :=
  fun x => if x = a then b else f x

theorem put_same {α β : Type} [DecidableEq α] (f : α → β) (a : α) (b : β) : put f a b a = b := by
  simp [put]

theorem put_other {α β : Type} [DecidableEq α] (f : α → β) {a x : α} (b : β) (h : x ≠ a) :
    put f a b x = f x := by
  simp [put, h]

theorem put_put {α β : Type} [DecidableEq α] (f : α → β) (a : α) (b c : β) :
    put (put f a b) a c = put f a c := by
  funext x
  by_cases h : x = a <;> simp [put, h]

end BridgeKeeper
