import DocUpdate.Value.Basic

/-!
# What stands inside a value

Fields of documents and of scopes and items of arrays stand inside a value, at any depth.
-/

namespace DocUpdate.Value

/-- A value without fields and items. -/
def isPlain : Value → Bool
  | document _ | array _ | javascriptWithScope _ _ => false
  | _ => true

theorem sizeOf_lt_of_field {fields : Fields} {field : String × Value} (h : field ∈ fields) :
    sizeOf field.2 < sizeOf fields := by
  have hlt := List.sizeOf_lt_of_mem h
  have hsize : sizeOf field = 1 + sizeOf field.1 + sizeOf field.2 := rfl
  omega

/-- What holds of a value as soon as it holds of the values right inside it holds of all. -/
@[elab_as_elim]
theorem induction {motive : Value → Prop}
    (document : ∀ fields : Fields, (∀ field ∈ fields, motive field.2) → motive (document fields))
    (array : ∀ items : List Value, (∀ item ∈ items, motive item) → motive (array items))
    (scope : ∀ (code : String) (scope : Fields), (∀ field ∈ scope, motive field.2) →
      motive (javascriptWithScope code scope))
    (plain : ∀ v : Value, v.isPlain = true → motive v) : ∀ v, motive v
  | .document fields => document fields fun field hfield =>
    have := sizeOf_lt_of_field hfield
    induction document array scope plain field.2
  | .array items => array items fun item hitem =>
    have := List.sizeOf_lt_of_mem hitem
    induction document array scope plain item
  | .javascriptWithScope code fields => scope code fields fun field hfield =>
    have := sizeOf_lt_of_field hfield
    induction document array scope plain field.2
  | .minKey | .maxKey | .null | .undefined | .bool _ | .int32 _ | .int64 _ | .double _
  | .decimal _ | .string _ | .symbol _ | .binary _ _ | .objectId _ | .date _ | .timestamp _ _
  | .regex _ _ | .dbPointer _ _ | .javascript _ => plain _ rfl
termination_by v => sizeOf v

/-- A value stands inside another at some depth, or is it. -/
inductive Contains : Value → Value → Prop where
  | self (v : Value) : Contains v v
  | field {fields : Fields} {field : String × Value} {u : Value} (hfield : field ∈ fields)
      (h : Contains field.2 u) : Contains (document fields) u
  | item {items : List Value} {item u : Value} (hitem : item ∈ items) (h : Contains item u) :
      Contains (array items) u
  | scope {code : String} {scope : Fields} {field : String × Value} {u : Value}
      (hfield : field ∈ scope) (h : Contains field.2 u) :
      Contains (javascriptWithScope code scope) u

theorem Contains.trans {v u w : Value} (h : v.Contains u) (h' : u.Contains w) : v.Contains w := by
  induction h with
  | self => exact h'
  | field hfield _ ih => exact .field hfield (ih h')
  | item hitem _ ih => exact .item hitem (ih h')
  | scope hfield _ ih => exact .scope hfield (ih h')

/-- A value of this kind stands inside a value at some depth, or is it. -/
def Holds (v : Value) (kind : Kind) : Prop := ∃ u, v.Contains u ∧ u.kind = kind

theorem holds_self (v : Value) : v.Holds v.kind := ⟨v, .self v, rfl⟩

theorem Holds.item {items : List Value} {item : Value} {kind : Kind} (h : item.Holds kind)
    (hitem : item ∈ items) : (array items).Holds kind := by
  obtain ⟨u, hu, hkind⟩ := h
  exact ⟨u, .item hitem hu, hkind⟩

theorem holds_array_iff {items : List Value} {kind : Kind} :
    (array items).Holds kind ↔ kind = .array ∨ ∃ item ∈ items, item.Holds kind := by
  constructor
  · rintro ⟨u, hu, rfl⟩
    cases hu with
    | self => exact .inl rfl
    | item hitem hu => exact .inr ⟨_, hitem, u, hu, rfl⟩
  · rintro (rfl | ⟨item, hitem, h⟩)
    · exact holds_self (array items)
    · exact h.item hitem

theorem not_holds_of_plain {v : Value} {kind : Kind} (hv : v.isPlain = true) (hne : v.kind ≠ kind) :
    ¬ v.Holds kind := by
  rintro ⟨u, hu, rfl⟩
  cases hu with
  | self => exact hne rfl
  | _ => cases hv

theorem not_holds_array_of_plain {items : List Value} {kind : Kind} (hkind : kind ≠ .array)
    (h : ∀ item ∈ items, item.isPlain = true ∧ item.kind ≠ kind) : ¬ (array items).Holds kind := by
  rw [holds_array_iff]
  rintro (rfl | ⟨item, hitem, hholds⟩)
  · exact hkind rfl
  · exact not_holds_of_plain (h item hitem).1 (h item hitem).2 hholds

end DocUpdate.Value
