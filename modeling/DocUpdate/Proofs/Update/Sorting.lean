import DocUpdate.Proofs.Number.Small
import DocUpdate.Proofs.Value.Order
import DocUpdate.Update.Items

/-!
# When the order of items is one

Items are sorted by a comparison that is always reversed with its arguments. It is transitive
among items as soon as the numbers in their keys are ordered. An integer and a decimal between
a double and its digits are all that can spoil that.
-/

namespace DocUpdate

/-! ## Values -/

namespace Value

/-- If the numbers in some values are ordered, the values are compared as their forms for one
choice of sizes. -/
theorem exists_canonBy {values : List Value}
    (h : TotalPreorderOn Number.cmp {x | x ∈ values.flatMap numbers}) :
    ∃ size, ∀ a ∈ values, ∀ b ∈ values, a.cmp b = (a.canonBy size).cmp (b.canonBy size) := by
  -- The size of a number is its rank.
  refine ⟨fun x => .finite (rankAmong Number.cmp (values.flatMap numbers) x : Nat), ?_⟩
  intro a ha b hb
  refine cmp_eq_canonBy fun x hx y hy => ?_
  have hx' : x ∈ values.flatMap numbers := List.mem_flatMap.mpr ⟨a, ha, hx⟩
  have hy' : y ∈ values.flatMap numbers := List.mem_flatMap.mpr ⟨b, hb, hy⟩
  rw [h.cmp_eq_rankAmong hx' hy']
  exact compare_eq_of_lt_iff Nat.cast_lt.symm Nat.cast_lt.symm

end Value

namespace Sorting

/-! ## Keys -/

/-- What an item is compared by. -/
def keysOf (sorting : Sorting) (item : Value) : List Value :=
  match sorting with
  | whole _ => [item]
  | byFields keys => keys.map fun key => keyOf key.path item

/-- The numbers in the keys of items, at any depth. -/
def numbers (sorting : Sorting) (items : List Value) : List Number :=
  (items.flatMap sorting.keysOf).flatMap Value.numbers

theorem mem_keys {sorting : Sorting} {items : List Value} {item key : Value} (hitem : item ∈ items)
    (hkey : key ∈ sorting.keysOf item) : key ∈ items.flatMap sorting.keysOf :=
  List.mem_flatMap.mpr ⟨item, hitem, hkey⟩

theorem apply_swap (direction : Direction) (o : Ordering) :
    (direction.apply o).swap = direction.apply o.swap := by
  cases direction <;> rfl

/-! ## The comparison -/

theorem cmpByFields_swap (a b : Value) (keys : List SortKey) :
    cmpByFields b a keys = (cmpByFields a b keys).swap := by
  induction keys with
  | nil => rfl
  | cons key rest ih =>
    rw [cmpByFields, cmpByFields, Ordering.swap_then, apply_swap, ← Value.cmp_swap, ih]

/-- Whatever is sorted and however, the comparison is reversed with its arguments. -/
theorem cmp_swap (sorting : Sorting) (a b : Value) : sorting.cmp b a = (sorting.cmp a b).swap := by
  cases sorting with
  | whole direction => rw [cmp, cmp, apply_swap, ← Value.cmp_swap]
  | byFields keys => exact cmpByFields_swap a b keys

variable {items : List Value}

theorem totalPreorderOn_key (f : Value → Value) (size : Number → Size) (direction : Direction)
    (h : ∀ a ∈ items, ∀ b ∈ items, (f a).cmp (f b) = ((f a).canonBy size).cmp ((f b).canonBy size)) :
    TotalPreorderOn (fun a b => direction.apply ((f a).cmp (f b))) {item | item ∈ items} := by
  have hascending : TotalPreorderOn (fun a b => (f a).cmp (f b)) {item | item ∈ items} :=
    .of_transCmp (fun a => (f a).canonBy size) h
  cases direction with
  | ascending => exact hascending
  | descending => exact hascending.reverse

theorem totalPreorderOn_cmpByFields (size : Number → Size) (keys : List SortKey)
    (h : ∀ key ∈ keys, ∀ a ∈ items, ∀ b ∈ items, (keyOf key.path a).cmp (keyOf key.path b) =
      ((keyOf key.path a).canonBy size).cmp ((keyOf key.path b).canonBy size)) :
    TotalPreorderOn (fun a b => cmpByFields a b keys) {item | item ∈ items} := by
  induction keys with
  | nil => exact .of_eq _
  | cons key rest ih =>
    refine .andThen (totalPreorderOn_key _ size key.direction (h key (by simp))) ?_
    exact ih fun k hk => h k (by simp [hk])

/-- Items can be sorted if the numbers in their keys are ordered. -/
theorem totalPreorderOn_of_numbers {sorting : Sorting}
    (h : TotalPreorderOn Number.cmp {x | x ∈ sorting.numbers items}) :
    TotalPreorderOn sorting.cmp {item | item ∈ items} := by
  obtain ⟨size, hsize⟩ := Value.exists_canonBy h
  cases sorting with
  | whole direction =>
    refine totalPreorderOn_key id size direction fun a ha b hb => ?_
    exact hsize a (mem_keys ha (by simp [keysOf])) b (mem_keys hb (by simp [keysOf]))
  | byFields keys =>
    refine totalPreorderOn_cmpByFields size keys fun key hkey a ha b hb => ?_
    exact hsize _ (mem_keys ha (List.mem_map_of_mem hkey)) _ (mem_keys hb (List.mem_map_of_mem hkey))

/-! ## Items with one number as their key -/

/-- The item has one key, and that is a number. -/
def ComparedBy (sorting : Sorting) (item : Value) (x : Number) : Prop :=
  ∃ key, sorting.keysOf item = [key] ∧ key.number? = some x

theorem exists_direction (sorting : Sorting) : ∃ direction : Direction, ∀ {a b key key' : Value},
    sorting.keysOf a = [key] → sorting.keysOf b = [key'] →
      sorting.cmp a b = direction.apply (key.cmp key') := by
  rcases sorting with direction | _ | ⟨key, _ | ⟨second, rest⟩⟩
  · exact ⟨direction, fun ha hb => by cases ha; cases hb; rfl⟩
  · exact ⟨.ascending, fun ha => by cases ha⟩
  · refine ⟨key.direction, fun ha hb => ?_⟩
    cases ha
    cases hb
    exact Ordering.then_eq
  · exact ⟨.ascending, fun ha => by cases ha⟩

theorem exists_comparedBy {sorting : Sorting} {x : Number}
    (hnumber : ∀ item ∈ items, ∃ y, sorting.ComparedBy item y) (hx : x ∈ sorting.numbers items) :
    ∃ item ∈ items, sorting.ComparedBy item x := by
  obtain ⟨key, hkey, hx⟩ := List.mem_flatMap.mp hx
  obtain ⟨item, hitem, hkey⟩ := List.mem_flatMap.mp hkey
  obtain ⟨y, only, honly, hy⟩ := hnumber item hitem
  rw [honly, List.mem_singleton] at hkey
  subst hkey
  rw [Value.numbers_of_number hy, List.mem_singleton] at hx
  subst hx
  exact ⟨item, hitem, key, honly, hy⟩

/-- Items that are sorted by numbers are ordered only if the numbers are. -/
theorem numbers_of_totalPreorderOn {sorting : Sorting}
    (hnumber : ∀ item ∈ items, ∃ x, sorting.ComparedBy item x)
    (h : TotalPreorderOn sorting.cmp {item | item ∈ items}) :
    TotalPreorderOn Number.cmp {x | x ∈ sorting.numbers items} := by
  obtain ⟨direction, hdirection⟩ := exists_direction sorting
  have hcmp : ∀ {a b x y}, sorting.ComparedBy a x → sorting.ComparedBy b y →
      sorting.cmp a b = direction.apply (x.cmp y) := by
    rintro a b x y ⟨key, ha, hx⟩ ⟨key', hb, hy⟩
    rw [hdirection ha hb, Value.cmp_of_number hx hy]
  cases direction with
  | ascending => exact h.of_related (fun _ => exists_comparedBy hnumber) hcmp
  | descending =>
    refine h.reverse.of_related (fun _ => exists_comparedBy hnumber) fun ha hb => ?_
    rw [hcmp ha hb]
    exact Ordering.swap_swap

/-! ## The condition -/

/-- The comparison of items is always reversed with its arguments. It is transitive among items
unless an integer and a decimal in their keys come between a double there and its digits, and
where each item has one number as its key only then. -/
theorem cmp_laws (sorting : Sorting) (items : List Value) :
    (∀ a b, sorting.cmp b a = (sorting.cmp a b).swap) ∧
    (Number.NoneCircular {x | x ∈ sorting.numbers items} →
      TotalPreorderOn sorting.cmp {item | item ∈ items}) ∧
    ((∀ item ∈ items, ∃ x, sorting.ComparedBy item x) →
      TotalPreorderOn sorting.cmp {item | item ∈ items} →
        Number.NoneCircular {x | x ∈ sorting.numbers items}) := by
  refine ⟨cmp_swap sorting, fun h => ?_, fun hnumber h => ?_⟩
  · exact totalPreorderOn_of_numbers (Number.totalPreorderOn_iff.mpr h)
  · exact Number.totalPreorderOn_iff.mp (numbers_of_totalPreorderOn hnumber h)

theorem three_scores_in_order :
    let sorting := byFields [⟨⟨⟨"score", by decide, by decide⟩, []⟩, .descending⟩]
    let items : List Value := [.document [("score", .int64 1)],
      .document [("score", .double ⟨0x3ff8000000000000⟩)],
      .document [("score", .decimal (.finite ⟨false, 15, -1, by decide, by decide, by decide⟩))]]
    Number.NoneCircular {x | x ∈ sorting.numbers items} ∧
      (∀ item ∈ items, ∃ x, sorting.ComparedBy item x) ∧
      TotalPreorderOn sorting.cmp {item | item ∈ items} := by
  intro sorting items
  have hscores : sorting.numbers items = [.int 1, .double ⟨0x3ff8000000000000⟩,
      .decimal (.finite ⟨false, 15, -1, by decide, by decide, by decide⟩)] := rfl
  have hsmall : ∀ n, .int n ∈ sorting.numbers items → n.natAbs < 2 * pow2 52 := by
    intro n hn
    rw [hscores] at hn
    have hone : n = 1 := by simpa using hn
    rw [hone, pow2_52]
    decide
  have hnumber : ∀ item ∈ items, ∃ x, sorting.ComparedBy item x := by
    intro item hitem
    simp only [items, List.mem_cons, List.not_mem_nil, or_false] at hitem
    rcases hitem with rfl | rfl | rfl <;> exact ⟨_, _, rfl, rfl⟩
  have hordered := (cmp_laws sorting items).2.1 (Number.noneCircular_of_lt hsmall)
  exact ⟨(cmp_laws sorting items).2.2 hnumber hordered, hnumber, hordered⟩

/-- The largest double below `2 ^ 63` is before an integer and its digits are behind a decimal,
though the integer is before the decimal. Sorting leaves the double last. -/
theorem double_behind_its_successors :
    let d : Value := .double ⟨0x43dfffffffffffff⟩
    let n : Value := .int64 9223372036854774800
    let e : Value := .decimal
      (.finite ⟨false, 9223372036854774900, 0, by decide, by decide, by decide⟩)
    let sorting := whole .ascending
    sorting.cmp d n = .lt ∧ sorting.cmp n e = .lt ∧ sorting.cmp d e = .gt ∧
      sorting.sort? [n, e, d] = some [n, e, d] ∧
      ¬ TotalPreorderOn sorting.cmp {item | item ∈ [n, e, d]} := by
  intro d n e sorting
  have hdn : sorting.cmp d n = .lt := by decide
  have hne : sorting.cmp n e = .lt := by decide
  have hde : sorting.cmp d e = .gt := by decide +kernel
  refine ⟨hdn, hne, hde, ?_, fun h => ?_⟩
  · have hen : sorting.cmp e n = .gt := by rw [cmp_swap, hne]; rfl
    simp [sort?, StableSort.sort?, StableSort.insertion, StableSort.placeAll, StableSort.place,
      hen, hde]
  · exact h.trans d (by simp) n (by simp) e (by simp) (by simp [hdn]) (by simp [hne]) hde

end Sorting

end DocUpdate
