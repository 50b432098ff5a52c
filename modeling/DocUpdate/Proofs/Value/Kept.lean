import DocUpdate.Proofs.Path.Change
import DocUpdate.Proofs.Value.Keys
import DocUpdate.Proofs.Value.Parts

/-!
# Properties that changes keep

Some properties pass from a document to what stands in it, and hold of it again once a value
with the property is put in or a field is taken out. A document keeps such a property through
every change that writes values with it.
-/

namespace DocUpdate

namespace Value

theorem mem_putItem {items : List Value} {i : Nat} {v item : Value}
    (h : item ∈ putItem items i v) : item ∈ items ∨ item = null ∨ item = v := by
  unfold putItem at h
  split at h
  · exact (List.mem_or_eq_of_mem_set h).imp_right .inr
  · simp only [List.mem_append, List.mem_replicate, List.mem_singleton] at h
    rcases h with (h | ⟨-, h⟩) | h
    · exact .inl h
    · exact .inr (.inl h)
    · exact .inr (.inr h)

/-! ## Values -/

/-- A property that holds of values without parts, and of arrays just when it holds of all items.
A document has it when it is created, when a value with it is put in, and when a field is taken
out. -/
structure Kept (P : Value → Prop) : Prop where
  plain : ∀ v : Value, v.isPlain = true → P v
  array_iff : ∀ items : List Value, P (array items) ↔ ∀ item ∈ items, P item
  created : P (document [])
  field : ∀ fields : Fields, P (document fields) → ∀ field ∈ fields, P field.2
  insert : ∀ (fields : Fields) (s : Segment) (v : Value), P (document fields) → P v →
    P (document (fields.insert s.name v))
  erase : ∀ (fields : Fields) (s : Segment), P (document fields) →
    P (document (fields.erase s.name))

namespace Kept

variable {P : Value → Prop} {v : Value}

theorem part {part : Value} {name : String} (hP : Kept P) (hv : P v) (h : v.part name = some part) :
    P part := by
  cases v
  case document fields => exact hP.field fields hv _ (Fields.get?_mem h)
  case array items =>
    obtain ⟨i, -, hitem⟩ := Option.bind_eq_some_iff.mp h
    exact (hP.array_iff items).mp hv _ (List.mem_of_getElem? hitem)
  all_goals cases h

/-- What a walk finds has the property of the value it started in. -/
theorem place {found : Value} {element : String} {ss : List Segment} (hP : Kept P) (hv : P v)
    (h : v.place element ss = .found found) : P found := by
  induction ss generalizing v element with
  | nil =>
    cases h
    exact hv
  | cons s rest ih =>
    obtain ⟨part, hp, hrest⟩ := place_cons_eq_found_iff.mp h
    exact ih (hP.part hv hp) hrest

theorem put {new : Option Value} (hP : Kept P) (hv : P v) (s : Segment) (hnew : ∀ w ∈ new, P w) :
    P (v.alter s.name fun _ => new) := by
  cases v
  case document fields =>
    rw [alter, Fields.alter]
    cases new with
    | none => exact hP.erase fields s hv
    | some w => exact hP.insert fields s w hv (hnew w rfl)
  case array items =>
    rw [alter]
    split
    · rw [hP.array_iff]
      intro item hitem
      rcases mem_putItem hitem with hitem | rfl | rfl
      · exact (hP.array_iff items).mp hv _ hitem
      · exact hP.plain _ rfl
      · cases new with
        | none => exact hP.plain _ rfl
        | some w => exact hnew w rfl
    · exact hv
  all_goals exact hv

/-- The documents created on the way have the names of the segments. -/
theorem changeFrom {new old : Option Value} (hP : Kept P) (hnew : ∀ w ∈ new, P w)
    (hold : ∀ v ∈ old, P v) (ss : List Segment) : ∀ w ∈ changeFrom new old ss, P w := by
  induction ss generalizing old with
  | nil => exact hnew
  | cons s rest ih =>
    rintro w ⟨⟩
    have hv : P (old.getD (document [])) := by
      cases old with
      | none => exact hP.created
      | some v => exact hold v rfl
    rw [alter_eq_put]
    exact hP.put hv s (ih fun part hpart => hP.part hv hpart)

/-! ## Documents -/

variable {doc : Fields}

theorem change {c : Change} (hP : Kept P) (hdoc : P (document doc)) (hvalue : ∀ v ∈ c.value, P v) :
    P (document (doc.change c)) := by
  have hold : ∀ v ∈ some (document doc), P v := by simpa using hdoc
  exact hP.changeFrom hvalue hold c.path.segments _ rfl

/-- A document keeps the property if all that is written has it. -/
theorem changeAll {cs : List Change} (hP : Kept P) (hdoc : P (document doc))
    (hcs : ∀ c ∈ cs, ∀ v ∈ c.value, P v) : P (document (doc.changeAll cs)) := by
  induction cs generalizing doc with
  | nil => exact hdoc
  | cons c rest ih =>
    rw [Fields.changeAll_cons]
    exact ih (hP.change hdoc (hcs c (by simp))) fun d hd => hcs d (by simp [hd])

end Kept

end Value

end DocUpdate
