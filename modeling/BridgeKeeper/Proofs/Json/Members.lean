import BridgeKeeper.Json.Decode
import BridgeKeeper.Proofs.Lookup

/-!
# Objects with a member left out

An object in which a member is left out has the same fields, but for that one, as long as the member
does not stand twice.
-/
namespace BridgeKeeper.Json

variable {name : String} {names : List String} {ms : List (Option String × Value)}
  {ks : List (String × Value)} {v : Value} {f : Fields}

theorem keyed?_cons (m : Option String × Value) (ms : List (Option String × Value)) :
    keyed? (m :: ms) = m.1.bind fun k => (keyed? ms).map ((k, m.2) :: ·) := by
  obtain ⟨_ | k, v⟩ := m
  · rfl
  · rw [keyed?, keyed?, List.mapM_cons]
    cases ms.mapM fun m : Option String × Value => m.1.map (·, m.2) <;> rfl

/-- The keys of an object are texts exactly where it is a record. -/
theorem keyed?_eq_some_iff : keyed? ms = some ks ↔ ms = ks.map fun m => (some m.1, m.2) := by
  constructor
  · intro h
    induction ms generalizing ks with
    | nil =>
      cases h
      rfl
    | cons m ms ih =>
      rw [keyed?_cons] at h
      obtain ⟨k, key, h⟩ := Option.bind_eq_some_iff.mp h
      obtain ⟨rest, keyed, rfl⟩ := Option.map_eq_some_iff.mp h
      rw [List.map_cons, ← ih keyed, ← key]
  · rintro rfl
    induction ks with
    | nil => rfl
    | cons m ks ih => rw [List.map_cons, keyed?_cons, ih]; rfl

theorem Value.fields?_members (ks : List (String × Value)) (names : List String) :
    (Value.record ks).fields? names = memberFields? names ks := by
  rw [record, fields?, keyed?_eq_some_iff.mpr rfl]
  rfl

/-- The members of an object but for those of a name. -/
def without (name : String) (ms : List (Option String × Value)) : List (Option String × Value) :=
  ms.filter (·.1 != some name)

/-- The keys of an object are texts exactly where the other ones are. -/
theorem keyed?_without (name : String) (ms : List (Option String × Value)) :
    keyed? (without name ms) = (keyed? ms).map (·.filter (·.1 != name)) := by
  induction ms with
  | nil => rfl
  | cons m ms ih =>
    rw [without] at ih ⊢
    obtain ⟨_ | k, v⟩ := m
    · rw [List.filter_cons_of_pos (by rfl), keyed?_cons, keyed?_cons]
      rfl
    · by_cases own : k = name
      · rw [List.filter_cons_of_neg (by simp [own]), ih, keyed?_cons]
        cases keyed? ms <;> simp [own]
      · rw [List.filter_cons_of_pos (by simp [own]), keyed?_cons, ih, keyed?_cons]
        cases keyed? ms <;> simp [own]

/-- A member of an object stands in it once. -/
def Once (name : String) (v : Value) (ms : List (Option String × Value)) : Prop :=
  ms.filter (·.1 == some name) = [(some name, v)]

theorem filter_keyed? (h : keyed? ms = some ks) (name : String) :
    ms.filter (·.1 == some name) = (ks.filter (·.1 == name)).map fun m => (some m.1, m.2) := by
  rw [keyed?_eq_some_iff.mp h, List.filter_map]
  rfl

theorem Once.keyed (once : Once name v ms) (h : keyed? ms = some ks) :
    ks.filter (·.1 == name) = [(name, v)] := by
  have single := (filter_keyed? h name).symm.trans once
  obtain ⟨⟨k, u⟩, only, same⟩ := List.map_eq_singleton_iff.mp single
  cases same
  exact only

theorem lookup_of_filter (h : ks.filter (·.1 == name) = [(name, v)]) : ks.lookup name = some v := by
  induction ks with
  | nil => cases h
  | cons m ks ih =>
    by_cases own : m.1 = name
    · rw [List.filter_cons_of_pos (by simp [own])] at h
      obtain ⟨rfl, -⟩ := List.cons.inj h
      exact List.lookup_cons_self
    · rw [List.filter_cons_of_neg (by simp [own])] at h
      rw [List.lookup_cons, beq_eq_false_iff_ne.mpr (Ne.symm own)]
      exact ih h

def Fields.without (f : Fields) (name : String) : Fields := fun n => if n = name then none else f n

theorem Fields.optional_without {α : Type} (f : Fields) {n : String} (other : n ≠ name)
    (read : Value → Option α) (default : α) :
    (f.without name).optional n read default = f.optional n read default := by
  simp [optional, without, other]

theorem Fields.required_without {α : Type} (f : Fields) {n : String} (other : n ≠ name)
    (read : Value → Option α) : (f.without name).required n read = f.required n read := by
  simp [required, without, other]

theorem Fields.optional_left_out {α : Type} (f : Fields) (name : String) (read : Value → Option α)
    (default : α) : (f.without name).optional name read default = some default := by
  simp [optional, without]

theorem Fields.optional_of_field {α : Type} (h : f name = some v) (read : Value → Option α)
    (default : α) : f.optional name read default = read v := by
  simp [optional, h]

/-- Members of a key that is looked for at most once have no part in whether the others stand twice. -/
theorem memberFields?_without (once : name ∈ names → (ks.filter (·.1 == name)).length ≤ 1) :
    memberFields? names (ks.filter (·.1 != name)) =
      (memberFields? names ks).map (·.without name) := by
  have same : (names.all fun n => ((ks.filter (·.1 != name)).filter (·.1 == n)).length ≤ 1) =
      names.all fun n => (ks.filter (·.1 == n)).length ≤ 1 := by
    rw [Bool.eq_iff_iff, List.all_eq_true, List.all_eq_true]
    refine forall₂_congr fun n named => ?_
    by_cases own : n = name
    · subst own
      have none : (ks.filter (·.1 != n)).filter (·.1 == n) = [] := by
        simp [List.filter_filter]
      simp [none, once named]
    · have kept : (ks.filter (·.1 != name)).filter (·.1 == n) = ks.filter (·.1 == n) := by
        rw [List.filter_filter]
        congr 1
        funext m
        by_cases here : m.1 = n
        · simp [here, own]
        · simp [here]
      rw [kept]
  rw [memberFields?, memberFields?, same]
  split
  · refine congrArg some (funext fun n => ?_)
    by_cases own : n = name
    · simp [Fields.without, own, lookup_filter_same]
    · simp [Fields.without, own, lookup_filter_ne own]
  · rfl

/-- Without a member the fields are those of the object, but for that one. -/
theorem Value.fields?_without (once : Once name v ms) (names : List String) :
    (Value.object (without name ms)).fields? names =
      ((Value.object ms).fields? names).map (·.without name) := by
  rw [Value.fields?, Value.fields?, keyed?_without]
  cases h : keyed? ms with
  | none => rfl
  | some ks => exact memberFields?_without fun _ => by simp [once.keyed h]

theorem Once.field (once : Once name v ms) (h : (Value.object ms).fields? names = some f) :
    f name = some v := by
  rw [Value.fields?] at h
  obtain ⟨ks, keyed, h⟩ := Option.bind_eq_some_iff.mp h
  rw [memberFields?] at h
  split at h
  · cases h
    exact lookup_of_filter (once.keyed keyed)
  · cases h

end BridgeKeeper.Json
