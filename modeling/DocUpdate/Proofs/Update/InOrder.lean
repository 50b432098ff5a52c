import DocUpdate.Proofs.StableSort.Quick
import DocUpdate.Proofs.Update.Sorting

/-!
# Items in order

An item comes before another by the first key that tells them apart. Where items are ordered,
sorting gives the one list of them that is in order and keeps what was in order already.
Elsewhere it may stop.
-/

namespace DocUpdate

/-! ## The order of items -/

/-- Whether a value comes before another. -/
def Direction.Before (direction : Direction) (a b : Value) : Prop :=
  match direction with
  | ascending => a.cmp b = .lt
  | descending => b.cmp a = .lt

theorem Direction.before_iff (direction : Direction) (a b : Value) :
    direction.Before a b ↔ direction.apply (a.cmp b) = .lt := by
  cases direction with
  | ascending => exact Iff.rfl
  | descending =>
    rw [Before, Value.cmp_swap a b]
    exact Iff.rfl

theorem Direction.apply_eq_eq {direction : Direction} {o : Ordering} :
    direction.apply o = .eq ↔ o = .eq := by
  cases direction <;> cases o <;> decide

namespace Sorting

/-- Whether an item comes before another. The first field that tells them apart decides. -/
def Before (sorting : Sorting) (a b : Value) : Prop :=
  match sorting with
  | whole direction => direction.Before a b
  | byFields keys => ∃ passed key rest, keys = passed ++ key :: rest ∧
      (∀ k ∈ passed, (keyOf k.path a).cmp (keyOf k.path b) = .eq) ∧
      key.direction.Before (keyOf key.path a) (keyOf key.path b)

theorem cmpByFields_eq_lt {a b : Value} {keys : List SortKey} :
    cmpByFields a b keys = .lt ↔ (byFields keys).Before a b := by
  induction keys with
  | nil =>
    refine iff_of_false (by simp [cmpByFields]) ?_
    rintro ⟨passed, key, rest, hkeys, -⟩
    cases passed <;> cases hkeys
  | cons first others ih =>
    rw [cmpByFields, Ordering.then_eq_lt, Direction.apply_eq_eq, ← Direction.before_iff, ih]
    constructor
    · rintro (hfirst | ⟨hfirst, passed, key, rest, rfl, hpassed, hkey⟩)
      · exact ⟨[], first, others, rfl, List.forall_mem_nil _, hfirst⟩
      · exact ⟨first :: passed, key, rest, rfl, List.forall_mem_cons.mpr ⟨hfirst, hpassed⟩, hkey⟩
    · rintro ⟨_ | ⟨_, passed⟩, key, rest, hkeys, hpassed, hkey⟩
      · cases hkeys
        exact .inl hkey
      · cases hkeys
        obtain ⟨hfirst, hpassed⟩ := List.forall_mem_cons.mp hpassed
        exact .inr ⟨hfirst, passed, key, rest, rfl, hpassed, hkey⟩

theorem before_iff (sorting : Sorting) (a b : Value) :
    sorting.Before a b ↔ sorting.cmp a b = .lt := by
  cases sorting with
  | whole direction => exact direction.before_iff a b
  | byFields keys => exact cmpByFields_eq_lt.symm

theorem before_eq (sorting : Sorting) : sorting.Before = fun a b => sorting.cmp a b = .lt :=
  funext fun a => funext fun b => propext (sorting.before_iff a b)

/-! ## Sorting -/

variable {sorting : Sorting} {items sorted : List Value}

/-- Items are ordered if their keys do not mix doubles and decimals. -/
theorem totalPreorderOn_of_unmixed
    (h : Value.Unmixed {key | key ∈ items.flatMap sorting.keysOf}) :
    TotalPreorderOn sorting.cmp {item | item ∈ items} := by
  refine totalPreorderOn_of_numbers (Number.totalPreorderOn_iff.mpr fun n x d _ hx hd _ => ?_)
  obtain ⟨key, hkey, hx⟩ := List.mem_flatMap.mp hx
  obtain ⟨key', hkey', hd⟩ := List.mem_flatMap.mp hd
  exact h.not_mixed hkey hkey' (Value.mixed_of_numbers hx hd trivial)

/-- Sorting gives the one stably sorted list if the comparison orders the items. -/
theorem stablySorted_iff (h : TotalPreorderOn sorting.cmp {item | item ∈ items}) :
    StablySorted sorting.Before items sorted ↔ sorting.sort? items = some sorted := by
  have hsort : StablySorted (sorting.cmp · · = .lt) items
      (StableSort.insertion sorting.cmp items) := StableSort.stablySorted_insertion h fun _ ha => ha
  rw [before_eq, sort?, StableSort.sort?_eq h, Option.some_inj]
  constructor
  · exact fun hsorted => h.eq_of_stablySorted (fun _ ha => ha) hsort hsorted
  · rintro rfl
    exact hsort

end Sorting

end DocUpdate
