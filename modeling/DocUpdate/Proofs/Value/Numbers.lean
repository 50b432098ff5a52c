import DocUpdate.Proofs.Value.Parts
import DocUpdate.Value.Order

/-!
# The numbers inside a value

They are listed in the order in which they stand in it, whatever their type.
-/

namespace DocUpdate.Value

mutual

/-- The numbers that stand in a value, at any depth. -/
def numbers : Value → List Number
  | document fields => numbersOfFields fields
  | array items => numbersOfItems items
  | javascriptWithScope _ scope => numbersOfFields scope
  | v => v.number?.toList

def numbersOfFields : List (String × Value) → List Number
  | [] => []
  | (_, v) :: rest => numbers v ++ numbersOfFields rest

def numbersOfItems : List Value → List Number
  | [] => []
  | v :: rest => numbers v ++ numbersOfItems rest

end

variable {x : Number}

theorem mem_numbersOfFields {fields : Fields} :
    x ∈ numbersOfFields fields ↔ ∃ field ∈ fields, x ∈ field.2.numbers := by
  induction fields with
  | nil => simp [numbersOfFields]
  | cons field rest ih => simp [numbersOfFields, ih]

theorem mem_numbersOfItems {items : List Value} :
    x ∈ numbersOfItems items ↔ ∃ item ∈ items, x ∈ item.numbers := by
  induction items with
  | nil => simp [numbersOfItems]
  | cons item rest ih => simp [numbersOfItems, ih]

theorem mem_numbers_field {fields : Fields} {field : String × Value} (hfield : field ∈ fields)
    (h : x ∈ field.2.numbers) : x ∈ (document fields).numbers := by
  rw [numbers]
  exact mem_numbersOfFields.mpr ⟨field, hfield, h⟩

theorem mem_numbers_item {items : List Value} {item : Value} (hitem : item ∈ items)
    (h : x ∈ item.numbers) : x ∈ (array items).numbers := by
  rw [numbers]
  exact mem_numbersOfItems.mpr ⟨item, hitem, h⟩

theorem mem_numbers_scope {code : String} {scope : Fields} {field : String × Value}
    (hfield : field ∈ scope) (h : x ∈ field.2.numbers) :
    x ∈ (javascriptWithScope code scope).numbers := by
  rw [numbers]
  exact mem_numbersOfFields.mpr ⟨field, hfield, h⟩

theorem numbers_of_plain {v : Value} (hv : v.isPlain = true) : v.numbers = v.number?.toList := by
  cases v <;> cases hv <;> rfl

theorem numbers_of_number {v : Value} (h : v.number? = some x) : v.numbers = [x] := by
  have hv : v.isPlain = true := by cases v <;> first | rfl | cases h
  rw [numbers_of_plain hv, h]
  rfl

theorem mem_numbers_of_number {v : Value} (h : v.number? = some x) : x ∈ v.numbers := by
  rw [numbers_of_number h]
  exact List.mem_singleton_self x

/-- A number that is listed is a value that stands inside. -/
theorem exists_of_mem_numbers {v : Value} (h : x ∈ v.numbers) :
    ∃ u, v.Contains u ∧ u.number? = some x := by
  induction v using Value.induction with
  | document fields ih =>
    rw [numbers] at h
    obtain ⟨field, hfield, hx⟩ := mem_numbersOfFields.mp h
    obtain ⟨u, hu, hnumber⟩ := ih field hfield hx
    exact ⟨u, .field hfield hu, hnumber⟩
  | array items ih =>
    rw [numbers] at h
    obtain ⟨item, hitem, hx⟩ := mem_numbersOfItems.mp h
    obtain ⟨u, hu, hnumber⟩ := ih item hitem hx
    exact ⟨u, .item hitem hu, hnumber⟩
  | scope code scope ih =>
    rw [numbers] at h
    obtain ⟨field, hfield, hx⟩ := mem_numbersOfFields.mp h
    obtain ⟨u, hu, hnumber⟩ := ih field hfield hx
    exact ⟨u, .scope hfield hu, hnumber⟩
  | plain v hv =>
    rw [numbers_of_plain hv, Option.mem_toList] at h
    exact ⟨v, .self v, h⟩

end DocUpdate.Value
