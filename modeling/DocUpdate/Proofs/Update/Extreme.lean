import DocUpdate.Proofs.Update.Content
import DocUpdate.Proofs.Value.Order
import DocUpdate.Proofs.Value.Preorder

/-!
# Running minimum and maximum

A bound that is applied with one operand after another leaves the least or the greatest of them.
Operands that are equal may differ in type, and which of these is left depends on their order.
-/

namespace DocUpdate

inductive Extreme where
  | least
  | greatest

namespace Extreme

/-- The comparison in which the extreme is the first. -/
def cmp : Extreme → Value → Value → Ordering
  | least, a, b => a.cmp b
  | greatest, a, b => (a.cmp b).swap

/-- One of the values, which none of them is before. -/
def Of (extreme : Extreme) (v : Value) (values : List Value) : Prop :=
  v ∈ values ∧ ∀ w ∈ values, extreme.cmp v w ≠ .gt

def action : Extreme → Value → Action
  | least, v => .min v
  | greatest, v => .max v

/-- The mutations that look for the extreme at a path. -/
def run (extreme : Extreme) (path : Path) (values : List Value) : List Mutation :=
  values.map fun v => ⟨path, extreme.action v⟩

/-- What one of these mutations leaves. -/
def pick (extreme : Extreme) (current operand : Value) : Value :=
  if extreme.cmp operand current = .lt then operand else current

/-! ## The order of values -/

section

variable {extreme : Extreme} {S : Set Value} {current v w : Value} {values others : List Value}

theorem totalPreorderOn (extreme : Extreme) (h : Value.Unmixed S) :
    TotalPreorderOn extreme.cmp S := by
  have hcmp : TotalPreorderOn Value.cmp S :=
    .of_transCmp Value.canon fun a ha b hb => Value.cmp_eq_canon (h.not_mixed ha hb)
  cases extreme with
  | least => exact hcmp
  | greatest => exact hcmp.reverse

theorem pick_eq_or (extreme : Extreme) (current operand : Value) :
    extreme.pick current operand = current ∨ extreme.pick current operand = operand := by
  unfold pick
  split <;> simp

theorem pick_le (h : TotalPreorderOn extreme.cmp S) (hcurrent : current ∈ S) (hv : v ∈ S) :
    extreme.cmp (extreme.pick current v) current ≠ .gt ∧
      extreme.cmp (extreme.pick current v) v ≠ .gt := by
  unfold pick
  split
  · rename_i hlt
    simp [hlt, h.refl hv]
  · rename_i hnot
    exact ⟨by simp [h.refl hcurrent], h.ne_gt_of_ne_lt hv hcurrent hnot⟩

theorem foldl_pick_mem (extreme : Extreme) (current : Value) (values : List Value) :
    values.foldl extreme.pick current ∈ current :: values := by
  induction values generalizing current with
  | nil => simp
  | cons v rest ih =>
    rw [List.foldl_cons]
    rcases List.mem_cons.mp (ih (extreme.pick current v)) with hfold | hmem
    · rw [hfold]
      rcases extreme.pick_eq_or current v with hp | hp <;> simp [hp]
    · simp [hmem]

/-- Whatever comes after it, a pick is not after any value seen so far. -/
theorem of_foldl_pick (h : TotalPreorderOn extreme.cmp S) (hS : ∀ v ∈ current :: values, v ∈ S) :
    extreme.Of (values.foldl extreme.pick current) (current :: values) := by
  refine ⟨foldl_pick_mem extreme current values, ?_⟩
  induction values generalizing current with
  | nil =>
    intro w hw
    obtain rfl := List.mem_singleton.mp hw
    simp [h.refl (hS w hw)]
  | cons v rest ih =>
    have hcurrent : current ∈ S := hS current (by simp)
    have hv : v ∈ S := hS v (by simp)
    have hnext : ∀ w ∈ extreme.pick current v :: rest, w ∈ S := by
      rcases extreme.pick_eq_or current v with hp | hp <;> simp_all
    -- What is found among the pick and the rest is not after the pick, and that is not after
    -- either of the two values it was picked from.
    have hfold := ih hnext
    have hpick : extreme.pick current v ∈ S := hnext _ (by simp)
    obtain ⟨hpc, hpv⟩ := pick_le h hcurrent hv
    have hmem := foldl_pick_mem extreme (extreme.pick current v) rest
    intro w hw
    simp only [List.mem_cons] at hw
    rcases hw with rfl | rfl | hw
    · exact h.trans _ (hnext _ hmem) _ hpick _ hcurrent (hfold _ (by simp)) hpc
    · exact h.trans _ (hnext _ hmem) _ hpick _ hv (hfold _ (by simp)) hpv
    · exact hfold w (by simp [hw])

theorem Of.perm (h : extreme.Of v values) (hperm : values.Perm others) : extreme.Of v others :=
  ⟨hperm.mem_iff.mp h.1, fun w hw => h.2 w (hperm.mem_iff.mpr hw)⟩

theorem Of.equal (h : extreme.Of v values) (h' : extreme.Of w values) : v.equal w := by
  have hvw := h.2 w h'.1
  have hwv := h'.2 v h.1
  have hswap := Value.cmp_swap v w
  cases extreme <;> cases hcmp : v.cmp w <;> simp_all [cmp, Value.equal]

end

/-! ## Runs -/

section

variable {options : Options} {path : Path} {first : Option Value} {values : List Value}

theorem makes_first (extreme : Extreme) (v : Value) :
    (Mutation.apply options ⟨path, extreme.action v⟩).Makes path none v := by
  cases extreme <;> exact Edit.makes_readForWrite (Edit.makes_write v)

theorem makes_bound {op : Operator} {wanted : Ordering} {current operand : Value}
    (h : current.hasParts = false) : (Edit.bound op wanted path operand).Makes path (some current)
      (if operand.cmp current = wanted then operand else current) := by
  refine Edit.makes_readForWrite ?_
  have hif : Edit.Makes (if operand.cmp current == wanted then Edit.write path operand
      else return false) path (some current)
        (if operand.cmp current = wanted then operand else current) := by
    by_cases hcmp : operand.cmp current = wanted
    · simpa [hcmp] using Edit.makes_write operand
    · simpa [hcmp] using Edit.makes_return_false
  cases current
  case array | document => cases h
  all_goals exact hif

theorem makes_pick {extreme : Extreme} {current : Value} (h : current.hasParts = false)
    (v : Value) : (Mutation.apply options ⟨path, extreme.action v⟩).Makes path (some current)
      (extreme.pick current v) := by
  cases extreme with
  | least => exact makes_bound h
  | greatest =>
    simp only [pick, cmp, Ordering.swap_eq_lt]
    exact makes_bound h

theorem makes_foldl {extreme : Extreme} {current : Value}
    (h : ∀ v ∈ current :: values, v.hasParts = false) :
    (applyAll options (extreme.run path values)).Makes path (some current)
      (values.foldl extreme.pick current) := by
  induction values generalizing current with
  | nil => exact makes_applyAll_nil
  | cons v rest ih =>
    refine makes_applyAll_cons (makes_pick (h current (by simp)) v) (ih ?_)
    rcases extreme.pick_eq_or current v with hp | hp <;> rw [hp] <;> simp_all

/-- Where there is something to compare, a run leaves the extreme of it. -/
theorem exists_makes {extreme : Extreme}
    (hscalar : ∀ v ∈ first.toList ++ values, v.hasParts = false) (hsome : values ≠ [])
    (hunmixed : Value.Unmixed {v | v ∈ first.toList ++ values}) :
    ∃ kept, (applyAll options (extreme.run path values)).Makes path first kept ∧
      extreme.Of kept (first.toList ++ values) := by
  have horder := extreme.totalPreorderOn hunmixed
  cases first with
  | some current =>
    exact ⟨_, makes_foldl hscalar, of_foldl_pick horder fun _ hv => hv⟩
  | none =>
    cases values with
    | nil => exact absurd rfl hsome
    | cons v rest =>
      exact ⟨_, makes_applyAll_cons (extreme.makes_first v) (makes_foldl hscalar),
        of_foldl_pick horder fun _ hv => hv⟩

/-- Bounds applied one after another succeed on values that are no arrays and no documents, and
leave the extreme of the operands and of what stood there. In another order they leave an equal
value. -/
theorem run_keeps_extreme {doc : Fields} (hfirst : doc.ContentAt path first)
    (hscalar : ∀ v ∈ first.toList ++ values, v.hasParts = false) (hsome : values ≠ [])
    (hunmixed : Value.Unmixed {v | v ∈ first.toList ++ values}) (extreme : Extreme)
    (options : Options) :
    ∃ kept, doc.RunsTo options (extreme.run path values) path kept ∧
      extreme.Of kept (first.toList ++ values) ∧
      ∀ order, order.Perm values → ∃ other,
        doc.RunsTo options (extreme.run path order) path other ∧ kept.equal other := by
  obtain ⟨kept, hmakes, hof⟩ := exists_makes hscalar hsome hunmixed
  refine ⟨kept, hmakes.runsTo hfirst, hof, fun order hperm => ?_⟩
  have hall : (first.toList ++ order).Perm (first.toList ++ values) := hperm.append_left _
  obtain ⟨other, hother, hof'⟩ := exists_makes (fun v hv => hscalar v (hall.mem_iff.mp hv))
    (fun hnil => hsome (List.perm_nil.mp (hnil ▸ hperm.symm)))
    (hunmixed.mono fun v hv => hall.mem_iff.mp hv)
  exact ⟨other, hother.runsTo hfirst, hof.equal (hof'.perm hall)⟩

/-- An integer and a double of the same size: the one that came first stays. -/
theorem greatest_of_equal_numbers :
    let path : Path := ⟨⟨"a", by decide, by decide⟩, [⟨"b", by decide, by decide⟩]⟩
    let two : Value := .double ⟨0x4000000000000000⟩
    let doc : Fields := [("c", .array [])]
    let options : Options := ⟨false, 0⟩
    let values : List Value := [.int32 2, .undefined, two]
    doc.ContentAt path none ∧ (∀ v ∈ values, v.hasParts = false) ∧
      Value.Unmixed {v | v ∈ values} ∧
      doc.RunsTo options (greatest.run path values) path (.int32 2) ∧
      greatest.Of (.int32 2) values ∧
      doc.RunsTo options (greatest.run path [.undefined, two, .int32 2]) path two ∧
      (Value.int32 2).equal two := by
  intro path two doc options values
  have hfirst : doc.ContentAt path none := Fields.contentAt_iff.mpr ⟨rfl, rfl⟩
  have hscalar : ∀ v ∈ values, v.hasParts = false := by simp [values, two, Value.hasParts]
  have hunmixed : Value.Unmixed {v | v ∈ values} := by
    refine .inr fun v hv => ?_
    have hv : v ∈ values := hv
    simp only [values, List.mem_cons, List.not_mem_nil, or_false] at hv
    rcases hv with rfl | rfl | rfl <;> exact Value.not_holds_of_plain rfl (by decide)
  obtain ⟨kept, hrun, hof, horder⟩ :=
    run_keeps_extreme hfirst hscalar (List.cons_ne_nil _ _) hunmixed greatest options
  obtain ⟨other, hother, hequal⟩ :=
    horder _ (List.perm_append_singleton (.int32 2) [.undefined, two])
  obtain rfl : kept = .int32 2 := by
    obtain ⟨changed, after, happly, hput⟩ := hrun
    cases happly
    have hread := hput.at_path
    cases hread
    rfl
  obtain rfl : other = two := by
    obtain ⟨changed, after, happly, hput⟩ := hother
    cases happly
    have hread := hput.at_path
    cases hread
    rfl
  exact ⟨hfirst, hscalar, hunmixed, hrun, hof, hother, hequal⟩

end

end Extreme

end DocUpdate
