import Mathlib.Data.List.Nodup
import BridgeKeeper.Proofs.Json.Record

/-!
# Objects that overlay defaults

An object gives fields of a record, each at most once, and stands for the record in which every field
that it does not give has its default. What it stands for depends neither on the order of its members
nor on members of other keys, and a member that gives the default may as well be left out.
-/
namespace BridgeKeeper.Json

abbrev Members := List (Option String × Value)

variable {σ τ α : Type} {ms ms' : Members} {ks : List (String × Value)} {name : String} {v : Value}
  {is : Value → α → Prop} {default a b : α} {m : Option String × Value}

/-! ## One key -/

/-- What an object gives for a key: the default where the key is absent, and else what the value of its
one member is. -/
inductive Gives (ms : Members) (name : String) (is : Value → α → Prop) (default : α) : α → Prop
  | absent : (∀ m ∈ ms, m.1 ≠ some name) → Gives ms name is default default
  | once {v : Value} {a : α} : Once name v ms → is v a → Gives ms name is default a

theorem filter_eq_nil_of_absent (absent : ∀ m ∈ ms, m.1 ≠ some name) :
    ms.filter (·.1 == some name) = [] :=
  List.filter_eq_nil_iff.mpr fun m h => by simpa using absent m h

theorem once_cons_other (other : m.1 ≠ some name) : Once name v (m :: ms) ↔ Once name v ms := by
  rw [Once, Once, List.filter_cons_of_neg (by simpa using other)]

theorem once_cons_own {w : Value} : Once name v ((some name, w) :: ms) ↔
    w = v ∧ ∀ m ∈ ms, m.1 ≠ some name := by
  rw [Once, List.filter_cons_of_pos (by simp), List.cons.injEq, Prod.mk.injEq,
    List.filter_eq_nil_iff]
  simp

namespace Gives

theorem perm (h : Gives ms name is default a) (order : ms.Perm ms') :
    Gives ms' name is default a := by
  cases h with
  | absent absent => exact .absent fun m there => absent m (order.mem_iff.mpr there)
  | once once value =>
    have moved := order.filter (·.1 == some name)
    rw [once] at moved
    exact .once (List.singleton_perm.mp moved).symm value

theorem cons_other_iff (other : m.1 ≠ some name) :
    Gives (m :: ms) name is default a ↔ Gives ms name is default a := by
  constructor
  · intro h
    cases h with
    | absent absent => exact .absent fun m there => absent m (List.mem_cons_of_mem _ there)
    | once once value => exact .once ((once_cons_other other).mp once) value
  · intro h
    cases h with
    | absent absent => exact .absent (List.forall_mem_cons.mpr ⟨other, absent⟩)
    | once once value => exact .once ((once_cons_other other).mpr once) value

theorem cons_own_iff : Gives ((some name, v) :: ms) name is default a ↔
    is v a ∧ ∀ m ∈ ms, m.1 ≠ some name := by
  constructor
  · intro h
    cases h with
    | absent absent => exact absurd rfl (absent _ List.mem_cons_self)
    | once once value =>
      obtain ⟨rfl, others⟩ := once_cons_own.mp once
      exact ⟨value, others⟩
  · rintro ⟨value, others⟩
    exact .once (once_cons_own.mpr ⟨rfl, others⟩) value

theorem unique (single : ∀ v a b, is v a → is v b → a = b) (h : Gives ms name is default a)
    (h' : Gives ms name is default b) : a = b := by
  cases h with
  | absent absent =>
    cases h' with
    | absent => rfl
    | once once => rw [Once, filter_eq_nil_of_absent absent] at once; cases once
  | once once value =>
    cases h' with
    | absent absent => rw [Once, filter_eq_nil_of_absent absent] at once; cases once
    | once once' value' =>
      rw [Once, once] at once'
      cases once'
      exact single _ _ _ value value'

end Gives

/-! ## Whole objects -/

/-- A field of a record: its key, which values are which data, and where the data is. -/
structure Field (σ : Type) where
  name : String
  {α : Type}
  is : Value → α → Prop
  get : σ → α
  unique : ∀ v a b, is v a → is v b → a = b

/-- The fields of a record, each with a key of its own, and its default. A record is no more than its
fields. -/
structure Shape (σ : Type) where
  fields : List (Field σ)
  default : σ
  distinct : (fields.map Field.name).Nodup
  ext : ∀ {s s'}, (∀ f ∈ fields, f.get s = f.get s') → s = s'

/-- The object stands for a record: every field is as the object gives it. -/
def Shape.Overlay (shape : Shape σ) (ms : Members) (s : σ) : Prop :=
  ∀ f ∈ shape.fields, Gives ms f.name f.is (f.get shape.default) (f.get s)

theorem Shape.Overlay.unique {shape : Shape σ} {s s' : σ} (h : shape.Overlay ms s)
    (h' : shape.Overlay ms s') : s = s' :=
  shape.ext fun f there => (h f there).unique f.unique (h' f there)

/-- An object without any of the fields stands for the default. -/
theorem Shape.overlay_default {shape : Shape σ} (h : ∀ f ∈ shape.fields, ∀ m ∈ ms, m.1 ≠ some f.name) :
    shape.Overlay ms shape.default :=
  fun f there => .absent (h f there)

theorem Value.nat_inj {n k : Nat} (h : Value.nat n = Value.nat k) : n = k := by
  have parts : ((n : Int) < 0 ↔ (k : Int) < 0) ∧ n = k := by
    simpa [Value.nat, Value.int, Number.ofInt] using h
  exact parts.2

def Field.text (name : String) (get : σ → String) : Field σ where
  name := name
  is v s := v = .text s
  get := get
  unique _ _ _ h h' := by
    rw [h, Value.text, Value.text, Value.string.injEq, Option.some.injEq] at h'
    exact h'

def Field.number (name : String) (get : σ → α) (toNat : α → Nat)
    (apart : ∀ {a b}, toNat a = toNat b → a = b) : Field σ where
  name := name
  is v a := v = .nat (toNat a)
  get := get
  unique _ _ _ h h' := apart (Value.nat_inj (h.symm.trans h'))

def Field.part (name : String) (shape : Shape τ) (get : σ → τ) : Field σ where
  name := name
  is v t := ∃ ms, v = .object ms ∧ shape.Overlay ms t
  get := get
  unique _ _ _ h h' := by
    obtain ⟨ms, rfl, here⟩ := h
    obtain ⟨ms', same, there⟩ := h'
    cases same
    exact here.unique there

/-! ## What makes no difference -/

/-- Changes of an object that make no difference: its members are reordered, a member of another key is
added, one of another key or with a default is left out, or a part of it is changed in such a way. The
first one stands for any member, as members can be reordered. -/
inductive Shape.Edit : {σ : Type} → Shape σ → Members → Members → Prop
  | reordered {σ : Type} {shape : Shape σ} {ms ms' : Members} : ms.Perm ms' → Edit shape ms ms'
  | added {σ : Type} {shape : Shape σ} {ms : Members} {m : Option String × Value} :
    (∀ f ∈ shape.fields, m.1 ≠ some f.name) → Edit shape ms (m :: ms)
  | dropped {σ : Type} {shape : Shape σ} {ms : Members} {m : Option String × Value} :
    (∀ f ∈ shape.fields, m.1 = some f.name → f.is m.2 (f.get shape.default)) →
    Edit shape (m :: ms) ms
  | within {σ τ : Type} {shape : Shape σ} {part : Shape τ} {name : String} {get : σ → τ}
    {ms ds ds' : Members} : Field.part name part get ∈ shape.fields → Edit part ds ds' →
    Edit shape ((some name, .object ds) :: ms) ((some name, .object ds') :: ms)

/-- What an object stands for stays. -/
theorem Shape.Edit.overlay {shape : Shape σ} (edit : shape.Edit ms ms') {s : σ}
    (h : shape.Overlay ms s) : shape.Overlay ms' s := by
  induction edit with
  | reordered order => exact fun f there => (h f there).perm order
  | added other => exact fun f there => (Gives.cons_other_iff (other f there)).mpr (h f there)
  | @dropped _ shape ms m idle =>
    intro f there
    by_cases own : m.1 = some f.name
    · obtain ⟨k, v⟩ := m
      subst own
      obtain ⟨value, others⟩ := Gives.cons_own_iff.mp (h f there)
      rw [f.unique _ _ _ value (idle f there rfl)]
      exact .absent others
    · exact (Gives.cons_other_iff own).mp (h f there)
  | @within σ τ shape part name get ms ds ds' field _ ih =>
    intro f there
    by_cases own : f.name = name
    · obtain rfl := List.inj_on_of_nodup_map shape.distinct there field own
      obtain ⟨⟨_, same, overlay⟩, others⟩ := Gives.cons_own_iff.mp (h _ there)
      cases same
      exact Gives.cons_own_iff.mpr ⟨⟨ds', rfl, ih overlay⟩, others⟩
    · have other : some name ≠ some f.name := fun h => own (Option.some.inj h).symm
      exact (Gives.cons_other_iff other).mpr ((Gives.cons_other_iff other).mp (h f there))

/-! ## Reading -/

def Spelled (ms : Members) : Prop := ∀ m ∈ ms, m.1 ≠ none

theorem spelled_iff : Spelled ms ↔ ∃ ks, keyed? ms = some ks := by
  constructor
  · intro h
    induction ms with
    | nil => exact ⟨[], rfl⟩
    | cons m ms ih =>
      obtain ⟨key, others⟩ := List.forall_mem_cons.mp h
      obtain ⟨k, named⟩ := Option.ne_none_iff_exists'.mp key
      obtain ⟨ks, keyed⟩ := ih others
      exact ⟨(k, m.2) :: ks, by rw [keyed?_cons, named, keyed]; rfl⟩
  · rintro ⟨ks, keyed⟩ m there
    rw [keyed?_eq_some_iff.mp keyed] at there
    obtain ⟨n, -, rfl⟩ := List.mem_map.mp there
    exact Option.some_ne_none n.1

/-- An object is read as a record only where all its keys are texts. -/
theorem spelled_of_fields? {names : List String} {f : Fields}
    (h : (Value.object ms).fields? names = some f) : Spelled ms := by
  obtain ⟨ks, keyed, -⟩ := Option.bind_eq_some_iff.mp h
  exact spelled_iff.mpr ⟨ks, keyed⟩

theorem Gives.single (h : Gives ms name is default a) (keyed : keyed? ms = some ks) :
    (ks.filter (·.1 == name)).length ≤ 1 := by
  have same := congrArg List.length (filter_keyed? keyed name)
  rw [List.length_map] at same
  rw [← same]
  cases h with
  | absent absent => simp [filter_eq_nil_of_absent absent]
  | once once =>
    rw [Once] at once
    simp [once]

/-- The field is read as what the object gives for it. -/
theorem Gives.optional (h : Gives ms name is default a) (keyed : keyed? ms = some ks)
    (read : Value → Option α) (reads : ∀ v a, (some name, v) ∈ ms → is v a → read v = some a) :
    Fields.optional (fun n => ks.lookup n) name read default = some a := by
  cases h with
  | absent absent =>
    have missing : ks.lookup name = none := by
      rw [List.lookup_eq_none_iff]
      intro n there
      have member : (some n.1, n.2) ∈ ms := by
        rw [keyed?_eq_some_iff.mp keyed]
        exact List.mem_map_of_mem there
      exact bne_iff_ne.mpr fun same => absent _ member (congrArg some same.symm)
    simp only [Fields.optional, missing]
  | @once v a once value =>
    have member : (some name, v) ∈ ms.filter (·.1 == some name) := by
      rw [Once] at once
      exact once ▸ List.mem_singleton_self _
    rw [Fields.optional_of_field (lookup_of_filter (once.keyed keyed))]
    exact reads v a (List.mem_filter.mp member).1 value

/-- Where an object gives something for a key, a member of that key is the only one. -/
theorem Gives.once_of_mem (h : Gives ms name is default a) (there : (some name, v) ∈ ms) :
    Once name v ms := by
  cases h with
  | absent absent => exact absurd rfl (absent _ there)
  | once once =>
    have own : (some name, v) ∈ ms.filter (·.1 == some name) :=
      List.mem_filter.mpr ⟨there, beq_self_eq_true _⟩
    rw [Once] at once ⊢
    rw [once, List.mem_singleton] at own
    rw [once, own]

/-- A part that is read is an object whose keys are texts, if that is how the part is read. -/
theorem Gives.spelled_part (h : Gives ms name is default a) {names : List String} {f : Fields}
    (fields : (Value.object ms).fields? names = some f) {read : Value → Option α} {t : α}
    (part : f.optional name read b = some t)
    (spelled : ∀ ds t, read (.object ds) = some t → Spelled ds) {ds : Members}
    (there : (some name, .object ds) ∈ ms) : Spelled ds := by
  rw [Fields.optional_of_field ((h.once_of_mem there).field fields)] at part
  exact spelled ds t part

theorem Shape.Overlay.fields? {shape : Shape σ} {s : σ} (h : shape.Overlay ms s)
    (keyed : keyed? ms = some ks) (names : List String)
    (own : shape.fields.map Field.name = names) :
    (Value.object ms).fields? names = some fun n => ks.lookup n := by
  have single : Single names ks := by
    intro n named
    rw [← own] at named
    obtain ⟨f, there, rfl⟩ := List.mem_map.mp named
    exact (h f there).single keyed
  rw [Value.fields?, keyed]
  exact memberFields?_of_single single

end BridgeKeeper.Json
