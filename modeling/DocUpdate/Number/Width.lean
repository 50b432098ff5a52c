/-!
# Integers of fixed width

Stored integers have 32 or 64 bits. An integer either fits or it does not; nothing wraps.
-/

namespace DocUpdate

/-- The 32-bit integer of this size, if there is one. -/
def int32Of? (n : Int) : Option Int32 :=
  if Int32.minValue.toInt ≤ n ∧ n ≤ Int32.maxValue.toInt then some (Int32.ofInt n) else none

/-- The 64-bit integer of this size, if there is one. -/
def int64Of? (n : Int) : Option Int64 :=
  if Int64.minValue.toInt ≤ n ∧ n ≤ Int64.maxValue.toInt then some (Int64.ofInt n) else none

theorem int32Of?_eq_some_iff {n : Int} {x : Int32} : int32Of? n = some x ↔ x.toInt = n := by
  constructor
  · intro h
    simp only [int32Of?, Option.ite_none_right_eq_some, Option.some.injEq] at h
    rw [← h.2]
    exact Int32.toInt_ofInt_of_le h.1.1 (Int.lt_of_le_of_lt h.1.2 (by decide))
  · rintro rfl
    rw [int32Of?, if_pos ⟨x.minValue_le_toInt, x.toInt_le⟩, Int32.ofInt_toInt]

theorem int64Of?_eq_some_iff {n : Int} {x : Int64} : int64Of? n = some x ↔ x.toInt = n := by
  constructor
  · intro h
    simp only [int64Of?, Option.ite_none_right_eq_some, Option.some.injEq] at h
    rw [← h.2]
    exact Int64.toInt_ofInt_of_le h.1.1 (Int.lt_of_le_of_lt h.1.2 (by decide))
  · rintro rfl
    rw [int64Of?, if_pos ⟨x.minValue_le_toInt, x.toInt_le⟩, Int64.ofInt_toInt]

end DocUpdate
