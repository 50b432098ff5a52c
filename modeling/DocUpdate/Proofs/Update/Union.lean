import Mathlib.Order.Fin.Tuple
import DocUpdate.Proofs.Update.Growing

/-!
# Adding to a set

Values are added in order to the end of an array, each one unless something equal stands there by
then. Equality of values is reflexive and symmetric, and no more than that is needed.
-/

namespace DocUpdate

theorem Value.equal_comm (a b : Value) : a.equal b = b.equal a := by
  unfold equal
  rw [cmp_swap a b]
  cases a.cmp b <;> rfl

namespace Items

variable {items values added : List Value} {v : Value}

/-- No item is equal to another. -/
def Distinct (items : List Value) : Prop :=
  ∀ i j : Fin items.length, i ≠ j → items[i].equal items[j] = false

theorem distinct_iff_pairwise :
    Distinct items ↔ items.Pairwise fun a b => a.equal b = false := by
  rw [List.pairwise_iff_getElem]
  constructor
  · intro h i j hi hj hij
    exact h ⟨i, hi⟩ ⟨j, hj⟩ (Fin.ne_of_lt hij)
  · intro h i j hij
    rcases lt_or_gt_of_ne hij with hlt | hgt
    · exact h i j i.isLt j.isLt hlt
    · rw [Value.equal_comm]
      exact h j i j.isLt i.isLt hgt

/-! ## Picked values -/

/-- The added values are picked from others, at positions that increase. What is left out is equal
to one of the items, or to a value that was picked before it. -/
def Picks (items values added : List Value) : Prop :=
  ∃ position : Fin added.length ↪o Fin values.length,
    (∀ i, values[position i] = added[i]) ∧
      ∀ j, (∀ i, position i ≠ j) → (∃ item ∈ items, item.equal values[j]) ∨
        ∃ i, position i < j ∧ added[i].equal values[j]

theorem picks_nil : Picks items [] [] := ⟨RelEmbedding.refl _, nofun, nofun⟩

theorem Picks.leave (h : Picks items values added) (hequal : ∃ item ∈ items, item.equal v) :
    Picks items (v :: values) added := by
  obtain ⟨position, hpicked, hleft⟩ := h
  refine ⟨position.trans (Fin.succOrderEmb _), hpicked, fun j hj => ?_⟩
  cases j using Fin.cases with
  | zero => exact .inl hequal
  | succ j =>
    rcases hleft j fun i hi => hj i (congrArg Fin.succ hi) with hitem | ⟨i, hi, hadded⟩
    · exact .inl hitem
    · exact .inr ⟨i, Fin.succ_lt_succ_iff.mpr hi, hadded⟩

theorem Picks.take (h : Picks (items ++ [v]) values added) :
    Picks items (v :: values) (v :: added) := by
  obtain ⟨position, hpicked, hleft⟩ := h
  have hmono : StrictMono (Fin.cons 0 fun i => (position i).succ :
      Fin (added.length + 1) → Fin (values.length + 1)) := by
    refine Fin.strictMono_cons.mpr ⟨fun i => Fin.succ_pos _, fun i j hij => ?_⟩
    exact Fin.succ_lt_succ_iff.mpr (position.strictMono hij)
  refine ⟨OrderEmbedding.ofStrictMono _ hmono, fun i => ?_, fun j hj => ?_⟩
  · cases i using Fin.cases with
    | zero => rfl
    | succ i => exact hpicked i
  · cases j using Fin.cases with
    | zero => exact absurd rfl (hj 0)
    | succ j =>
      rcases hleft j fun i hi => hj i.succ (congrArg Fin.succ hi) with ⟨item, hitem, h⟩ | ⟨i, hi, h⟩
      · rcases List.mem_append.mp hitem with hitem | hitem
        · exact .inl ⟨item, hitem, h⟩
        · obtain rfl := List.mem_singleton.mp hitem
          exact .inr ⟨0, Fin.succ_pos j, h⟩
      · exact .inr ⟨i.succ, Fin.succ_lt_succ_iff.mpr hi, h⟩

theorem Picks.covers (h : Picks items values added) :
    ∀ v ∈ values, ∃ item ∈ items ++ added, item.equal v := by
  obtain ⟨position, hpicked, hleft⟩ := h
  intro v hv
  obtain ⟨j, rfl⟩ := List.get_of_mem hv
  by_cases htaken : ∃ i, position i = j
  · obtain ⟨i, rfl⟩ := htaken
    have hsame : values.get (position i) = added[i] := hpicked i
    rw [hsame]
    exact ⟨added[i], by simp, by simp [Value.equal]⟩
  · rcases hleft j (not_exists.mp htaken) with ⟨item, hitem, hequal⟩ | ⟨i, -, hequal⟩
    · exact ⟨item, by simp [hitem], hequal⟩
    · exact ⟨added[i], by simp, hequal⟩

/-! ## Unions -/

/-- What is added to items when they are united with some values. -/
structure Unites (items values added : List Value) : Prop where
  picks : Picks items values added
  new : ∀ item ∈ items, ∀ v ∈ added, item.equal v = false
  distinct : Distinct added

theorem unites_nil : Unites items [] [] := ⟨picks_nil, by simp, nofun⟩

theorem Unites.leave (h : Unites items values added) (hequal : ∃ item ∈ items, item.equal v) :
    Unites items (v :: values) added :=
  ⟨h.picks.leave hequal, h.new, h.distinct⟩

theorem Unites.take (h : Unites (items ++ [v]) values added)
    (hnew : ∀ item ∈ items, item.equal v = false) : Unites items (v :: values) (v :: added) := by
  refine ⟨h.picks.take, fun item hitem => ?_, ?_⟩
  · exact List.forall_mem_cons.mpr ⟨hnew item hitem, h.new item (by simp [hitem])⟩
  · rw [distinct_iff_pairwise, List.pairwise_cons]
    exact ⟨h.new v (by simp), distinct_iff_pairwise.mp h.distinct⟩

theorem Unites.append (h : Unites items values added) (hitems : Distinct items) :
    Distinct (items ++ added) := by
  rw [distinct_iff_pairwise, List.pairwise_append]
  exact ⟨distinct_iff_pairwise.mp hitems, distinct_iff_pairwise.mp h.distinct, h.new⟩

theorem exists_unites (items values : List Value) :
    ∃ added, union items values = items ++ added ∧ Unites items values added := by
  induction values generalizing items with
  | nil => exact ⟨[], (List.append_nil items).symm, unites_nil⟩
  | cons v rest ih =>
    cases hany : items.any (·.equal v) with
    | true =>
      obtain ⟨added, hunion, hunites⟩ := ih items
      refine ⟨added, ?_, hunites.leave (List.any_eq_true.mp hany)⟩
      rw [union, if_pos hany, hunion]
    | false =>
      -- For the values that follow, `v` is one of the items.
      obtain ⟨added, hunion, hunites⟩ := ih (items ++ [v])
      refine ⟨v :: added, ?_, hunites.take (by simpa using hany)⟩
      rw [union, if_neg (by simp [hany]), hunion, List.append_assoc]
      rfl

end Items

namespace Edit

/-- Values are added to an array, or where one can be created, without failing. The items keep
their places in front, and each value is equal to one of the items then. No two are equal if none
were before. -/
theorem addToSet_unites {doc : Fields} {path : Path} {items : List Value}
    (hitems : doc.ItemsAt path items) (values : List Value) :
    ∃ changed after added, addToSet path values doc = .ok changed after ∧
      doc.Put path (.array (items ++ added)) after ∧ Items.Unites items values added ∧
      (∀ v ∈ values, ∃ item ∈ items ++ added, item.equal v) ∧
      (Items.Distinct items → Items.Distinct (items ++ added)) := by
  have hedit : (ItemsEdit.counted (Items.union · values)).result? items =
      some (Items.union items values) := rfl
  obtain ⟨changed, after, hrun, hput⟩ := Planned.exists_run_grow hitems .addToSet hedit
  obtain ⟨added, hunion, hunites⟩ := Items.exists_unites items values
  have hadd := (follows_addToSet values doc).trans hrun
  refine ⟨changed, after, added, hadd, ?_, hunites, hunites.picks.covers, hunites.append⟩
  rw [← hunion]
  exact hput

/-- The items that were equal to each other stay, and the first of two equal documents is added. -/
theorem addToSet_equal_documents :
    let path : Path := ⟨⟨"a", by decide, by decide⟩, [⟨"1", by decide, by decide⟩]⟩
    let one : Value := .double ⟨0x3FF0000000000000⟩
    let doc : Fields := [("a", .array [.null, .array [.int32 1, one]])]
    let values : List Value :=
      [.document [("x", one)], .int64 1, .document [("x", .int32 1)], .null]
    let added : List Value := [.document [("x", one)], .null]
    let after : Fields := [("a", .array [.null, .array ([.int32 1, one] ++ added)])]
    doc.ItemsAt path [.int32 1, one] ∧ ¬ Items.Distinct [.int32 1, one] ∧
      (∃ changed, addToSet path values doc = .ok changed after) ∧
      Items.Unites [.int32 1, one] values added := by
  intro path one doc values added after
  have hitems : doc.ItemsAt path [.int32 1, one] := .present rfl
  obtain ⟨changed, left, new, hrun, hput, hunites, -, -⟩ := addToSet_unites hitems values
  have hequal : ¬ Items.Distinct [.int32 1, one] := by
    intro hdistinct
    have hone := hdistinct 0 1 (by decide)
    exact absurd hone (by decide)
  have hleft : addToSet path values doc = .ok true after := rfl
  rw [hrun] at hleft
  cases hleft
  have hadded : after.read path = .ok (some (.array ([.int32 1, one] ++ added))) := rfl
  rw [hput.at_path] at hadded
  cases hadded
  exact ⟨hitems, hequal, ⟨true, hrun⟩, hunites⟩

end Edit

end DocUpdate
