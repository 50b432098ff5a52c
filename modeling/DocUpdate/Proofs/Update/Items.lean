import DocUpdate.Proofs.StableSort.Quick
import DocUpdate.Update.Items

/-!
# Where items come from

Inserting, sorting, slicing and taking out make no items. What is in the list afterwards was
there before or was listed by the update.
-/

namespace DocUpdate

/-! ## Pushing -/

namespace Push

theorem keep_sublist (n : Int) (items : List Value) : (keep n items).Sublist items := by
  unfold keep
  split
  · exact List.drop_sublist _ _
  · exact List.take_sublist _ _

theorem inserted_perm (p : Push) (items : List Value) :
    (p.inserted items).Perm (items ++ p.each) := by
  let k := insertionPoint items.length p.position
  have hitems : items.take k ++ items.drop k = items := List.take_append_drop k items
  have hmoved : (items.take k ++ (p.each ++ items.drop k)).Perm
      (items.take k ++ (items.drop k ++ p.each)) := List.perm_append_comm.append_left _
  rwa [← List.append_assoc, ← List.append_assoc, hitems] at hmoved

theorem sorted?_perm {p : Push} {items sorted : List Value} (h : p.sorted? items = some sorted) :
    sorted.Perm (items ++ p.each) := by
  unfold sorted? at h
  split at h
  · exact (StableSort.sort?_perm h).trans (p.inserted_perm items)
  · cases h
    exact p.inserted_perm items

theorem sliced_sublist (p : Push) (sorted : List Value) : (p.sliced sorted).Sublist sorted := by
  unfold sliced
  split
  · exact keep_sublist _ _
  · exact .refl _

/-- Items that are only inserted make the list longer. -/
theorem length_result?_of_plain (p : Push) (hsort : p.sort = none) (hslice : p.slice = none)
    {items result : List Value} (h : p.result? items = some result) :
    result.length = items.length + p.each.length := by
  rw [result?, sorted?, hsort] at h
  cases h
  rw [sliced, hslice]
  exact (p.inserted_perm items).length_eq.trans List.length_append

theorem mem_result? {p : Push} {items result : List Value} (h : p.result? items = some result)
    {item : Value} (hitem : item ∈ result) : item ∈ items ∨ item ∈ p.each := by
  rw [result?, Option.map_eq_some_iff] at h
  obtain ⟨sorted, hsorted, rfl⟩ := h
  exact List.mem_append.mp ((sorted?_perm hsorted).subset ((p.sliced_sublist sorted).subset hitem))

end Push

/-! ## Sets and removal -/

namespace Items

theorem sublist_union (items values : List Value) : items.Sublist (union items values) := by
  induction values generalizing items with
  | nil => exact List.Sublist.refl _
  | cons v rest ih =>
    rw [union]
    split
    · exact ih items
    · exact (List.sublist_append_left items [v]).trans (ih _)

theorem mem_union {items values : List Value} {item : Value} (h : item ∈ union items values) :
    item ∈ items ∨ item ∈ values := by
  induction values generalizing items with
  | nil => exact .inl h
  | cons v rest ih =>
    rw [union] at h
    split at h
    · exact (ih h).imp_right (List.mem_cons_of_mem v)
    · rcases ih h with h | h
      · rcases List.mem_append.mp h with h | h
        · exact .inl h
        · exact .inr (List.mem_cons.mpr (.inl (List.mem_singleton.mp h)))
      · exact .inr (List.mem_cons_of_mem v h)

theorem pop_sublist (side : End) (items : List Value) : (pop side items).Sublist items := by
  cases side with
  | first => exact List.tail_sublist items
  | last => exact List.dropLast_sublist items

end Items

end DocUpdate
