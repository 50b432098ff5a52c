import DocUpdate.Proofs.StableSort.Merging

/-!
# Two halves meet

Two halves are merged from both ends at once. Either end cuts both lists in two, and what lies
before the cut is not behind what follows it. So if items are ordered, one cut lies within the
other, and together they leave at most one item out.
-/

namespace DocUpdate.StableSort

universe u

variable {α : Type u} {cmp : α → α → Ordering} {S : Set α}

/-! ## What is taken from the front -/

/-- A merge takes `xs`, which `left` follows, and `ys`, which `right` follows, and gives
`merged`. -/
inductive Fronts (cmp : α → α → Ordering) (left right : List α) :
    List α → List α → List α → Prop where
  | none : Fronts cmp left right [] [] []
  | left {a : α} {xs ys merged : List α} (rest : Fronts cmp left right xs ys merged)
    (not_lt : ∀ b ∈ (ys ++ right).head?, ¬ cmp b a = .lt) :
    Fronts cmp left right (a :: xs) ys (a :: merged)
  | right {b : α} {xs ys merged : List α} (rest : Fronts cmp left right xs ys merged)
    (lt : ∀ a ∈ (xs ++ left).head?, cmp b a = .lt) :
    Fronts cmp left right xs (b :: ys) (b :: merged)

/-- A merge takes as many items as it is told to if both lists have as many. -/
theorem exists_fronts (cmp : α → α → Ordering) (n : Nat) (first second : List α) :
    ∃ xs left ys right merged, mergeFront cmp n first second = (merged, left, right) ∧
      first = xs ++ left ∧ second = ys ++ right ∧ Fronts cmp left right xs ys merged ∧
      (n ≤ first.length → n ≤ second.length → merged.length = n) := by
  induction n generalizing first second with
  | zero => exact ⟨[], first, [], second, [], by simp [mergeFront], rfl, rfl, .none, fun _ _ => rfl⟩
  | succ n ih =>
    cases first with
    | nil => exact ⟨[], [], [], second, [], by simp [mergeFront], rfl, rfl, .none, by simp⟩
    | cons a first =>
      cases second with
      | nil => exact ⟨[], a :: first, [], [], [], by simp [mergeFront], rfl, rfl, .none, by simp⟩
      | cons b second =>
        rw [mergeFront]
        by_cases hba : cmp b a = .lt
        · obtain ⟨xs, left, ys, right, merged, hfront, hfirst, rfl, hfronts, hlength⟩ :=
            ih (a :: first) second
          rw [if_pos (by simp [hba]), hfront]
          refine ⟨xs, left, b :: ys, right, b :: merged, rfl, hfirst, rfl,
            .right hfronts (by simp [← hfirst, hba]), fun hn hm => ?_⟩
          rw [List.length_cons, hlength (by omega) (by simpa using hm)]
        · obtain ⟨xs, left, ys, right, merged, hfront, rfl, hsecond, hfronts, hlength⟩ :=
            ih first (b :: second)
          rw [if_neg (by simp [hba]), hfront]
          refine ⟨a :: xs, left, ys, right, a :: merged, rfl, rfl, hsecond,
            .left hfronts (by simp [← hsecond, hba]), fun hn hm => ?_⟩
          rw [List.length_cons, hlength (by simpa using hn) (by omega)]

variable {left right xs ys merged : List α}

theorem Fronts.perm (h : Fronts cmp left right xs ys merged) : merged.Perm (xs ++ ys) := by
  induction h with
  | none => exact .refl _
  | left _ _ ih => exact ih.cons _
  | right _ _ ih => exact (ih.cons _).trans List.perm_middle.symm

/-! ## Cuts -/

/-- Both lists are cut in two, and what lies before the cut in one is not behind what follows it
in the other. Items that compare equal lie before it in the first list only. -/
structure Cut (cmp : α → α → Ordering) (xs left ys right : List α) : Prop where
  le : ∀ a ∈ xs, ∀ b ∈ right, ¬ cmp b a = .lt
  lt : ∀ b ∈ ys, ∀ a ∈ left, cmp b a = .lt

theorem Fronts.sorts (h : TotalPreorderOn cmp S) (hfronts : Fronts cmp left right xs ys merged)
    (hl : ∀ a ∈ xs ++ left, a ∈ S) (hr : ∀ b ∈ ys ++ right, b ∈ S)
    (hleft : (xs ++ left).Pairwise fun a b => ¬ cmp b a = .lt)
    (hright : (ys ++ right).Pairwise fun a b => ¬ cmp b a = .lt) :
    Sorts cmp S (xs ++ ys) merged ∧ Cut cmp xs left ys right := by
  induction hfronts with
  | none => exact ⟨⟨.refl _, .nil⟩, nofun, nofun⟩
  | @left a xs ys merged rest hnot ih =>
    obtain ⟨ha, hl⟩ := List.forall_mem_cons.mp hl
    obtain ⟨hahead, hleft⟩ := List.pairwise_cons.mp hleft
    obtain ⟨hsorts, hcut⟩ := ih hl hr hleft hright
    have hle : ∀ b ∈ ys ++ right, ¬ cmp b a = .lt := by
      cases hys : ys ++ right with
      | nil => nofun
      | cons b rest =>
        rw [hys] at hr hright hnot
        obtain ⟨hb, hr⟩ := List.forall_mem_cons.mp hr
        exact not_lt_of_cons h ha hb hr (hnot b rfl) hright
    refine ⟨hsorts.cons fun b hb => ?_, ?_, hcut.lt⟩
    · rcases List.mem_append.mp hb with hb | hb
      · exact hahead b (by simp [hb])
      · exact hle b (by simp [hb])
    · intro x hx b hb
      rcases List.mem_cons.mp hx with rfl | hx
      · exact hle b (by simp [hb])
      · exact hcut.le x hx b hb
  | @right b xs ys merged rest hlt ih =>
    obtain ⟨hb, hr⟩ := List.forall_mem_cons.mp hr
    obtain ⟨hbhead, hright⟩ := List.pairwise_cons.mp hright
    obtain ⟨hsorts, hcut⟩ := ih hl hr hleft hright
    have hlt : ∀ a ∈ xs ++ left, cmp b a = .lt := by
      cases hxs : xs ++ left with
      | nil => nofun
      | cons a rest =>
        rw [hxs] at hl hleft hlt
        obtain ⟨ha, hl⟩ := List.forall_mem_cons.mp hl
        exact lt_of_cons h ha hb hl (hlt a rfl) hleft
    have hfront := hsorts.cons_middle h hb (fun a ha => hl a (by simp [ha]))
      (fun a ha => hlt a (by simp [ha])) fun a ha => hbhead a (by simp [ha])
    refine ⟨hfront, hcut.le, fun y hy a ha => ?_⟩
    rcases List.mem_cons.mp hy with rfl | hy
    · exact hlt a (by simp [ha])
    · exact hcut.lt y hy a ha

/-- Taken from the back, the last items are sorted, and the lists are cut in front of them. -/
theorem Fronts.sorts_back (h : TotalPreorderOn cmp S)
    (hfronts : Fronts (fun a b => cmp b a) right.reverse left.reverse ys.reverse xs.reverse merged)
    (hl : ∀ a ∈ left ++ xs, a ∈ S) (hr : ∀ b ∈ right ++ ys, b ∈ S)
    (hleft : (left ++ xs).Pairwise fun a b => ¬ cmp b a = .lt)
    (hright : (right ++ ys).Pairwise fun a b => ¬ cmp b a = .lt) :
    Sorts cmp S (xs ++ ys) merged.reverse ∧ Cut cmp left xs right ys := by
  obtain ⟨hsorts, hcut⟩ := hfronts.sorts h.flip (fun b hb => hr b (by simpa [or_comm] using hb))
    (fun a ha => hl a (by simpa [or_comm] using ha))
    (by rw [← List.reverse_append]; exact List.pairwise_reverse.mpr hright)
    (by rw [← List.reverse_append]; exact List.pairwise_reverse.mpr hleft)
  constructor
  · rw [← List.reverse_append] at hsorts
    simpa using hsorts.reverse h fun a ha => by
      rcases List.mem_append.mp (List.mem_reverse.mp ha) with ha | ha
      · exact hl a (by simp [ha])
      · exact hr a (by simp [ha])
  · exact ⟨fun a ha b hb => hcut.le b (by simpa using hb) a (by simpa using ha),
      fun b hb a ha => hcut.lt a (by simpa using ha) b (by simpa using hb)⟩

/-- Nothing before a cut is behind what follows it. -/
theorem Cut.not_lt (h : TotalPreorderOn cmp S) (hcut : Cut cmp xs left ys right)
    (hl : ∀ a ∈ xs ++ left, a ∈ S) (hr : ∀ b ∈ ys ++ right, b ∈ S)
    (hleft : (xs ++ left).Pairwise fun a b => ¬ cmp b a = .lt)
    (hright : (ys ++ right).Pairwise fun a b => ¬ cmp b a = .lt) :
    ∀ a ∈ xs ++ ys, ∀ b ∈ left ++ right, ¬ cmp b a = .lt := by
  intro a ha b hb
  rcases List.mem_append.mp ha with ha | ha <;> rcases List.mem_append.mp hb with hb | hb
  · exact (List.pairwise_append.mp hleft).2.2 a ha b hb
  · exact hcut.le a ha b hb
  · exact h.not_lt_of_lt (hr a (by simp [ha])) (hl b (by simp [hb])) (hcut.lt a ha b hb)
  · exact (List.pairwise_append.mp hright).2.2 a ha b hb

/-- A list that is cut twice has an item between the cuts. -/
theorem exists_mem_of_append_eq {first rest early late : List α}
    (h : first ++ rest = early ++ late) (hlt : early.length < first.length) :
    ∃ a, a ∈ first ∧ a ∈ late := by
  rcases List.append_eq_append_iff.mp h with ⟨middle, rfl, -⟩ | ⟨_ | ⟨a, middle⟩, rfl, rfl⟩
  · rw [List.length_append] at hlt
    omega
  · simp at hlt
  · exact ⟨a, by simp, by simp⟩

/-- Of two cuts the one with fewer items before it lies within the other. -/
theorem Cut.length_le {xs' left' ys' right' : List α} (hcut : Cut cmp xs left ys right)
    (hcut' : Cut cmp xs' left' ys' right') (hl : xs ++ left = xs' ++ left')
    (hr : ys ++ right = ys' ++ right')
    (hle : xs.length + ys.length ≤ xs'.length + ys'.length) :
    xs.length ≤ xs'.length ∧ ys.length ≤ ys'.length := by
  by_contra hnot
  by_cases hlt : xs'.length < xs.length
  · obtain ⟨a, ha, ha'⟩ := exists_mem_of_append_eq hl hlt
    obtain ⟨b, hb', hb⟩ := exists_mem_of_append_eq hr.symm (by omega)
    exact hcut.le a ha b hb (hcut'.lt b hb' a ha')
  · obtain ⟨b, hb, hb'⟩ := exists_mem_of_append_eq hr (by omega)
    obtain ⟨a, ha', ha⟩ := exists_mem_of_append_eq hl.symm (by omega)
    exact hcut'.le a ha' b hb' (hcut.lt b hb a ha)

/-! ## Merging halves -/

/-- Where a list is cut at the front and further back, there is something between. -/
theorem exists_between {first rest early late : List α} (h : first ++ rest = early ++ late)
    (hle : first.length ≤ early.length) :
    early = first ++ rest.take (early.length - first.length) ∧
      rest = rest.take (early.length - first.length) ++ late := by
  have htake := congrArg (List.take early.length) h
  have hdrop := congrArg (List.drop early.length) h
  rw [List.take_append_of_le_length (Nat.le_refl _), List.take_length, List.take_append,
    List.take_of_length_le hle] at htake
  rw [List.drop_append_of_le_length (Nat.le_refl _), List.drop_length, List.nil_append,
    List.drop_append, List.drop_of_length_le hle, List.nil_append] at hdrop
  exact ⟨htake.symm, by rw [← hdrop, List.take_append_drop]⟩

/-- What is merged from both ends, and what is between. -/
theorem exists_mergeHalves? (cmp : α → α → Ordering) (left right : List α) :
    ∃ xs left₁ ys right₁ first, ∃ left₂ xs' right₂ ys' last,
      left = xs ++ left₁ ∧ right = ys ++ right₁ ∧ left = left₂ ++ xs' ∧ right = right₂ ++ ys' ∧
      Fronts cmp left₁ right₁ xs ys first ∧
      Fronts (fun a b => cmp b a) right₂.reverse left₂.reverse ys'.reverse xs'.reverse last ∧
      (left.length ≤ right.length → first.length = left.length ∧ last.length = left.length) ∧
      mergeHalves? cmp left right =
        if xs.length ≤ left₂.length ∧ ys.length ≤ right₂.length then
          some (first ++ left₁.take (left₂.length - xs.length) ++
            right₁.take (right₂.length - ys.length) ++ last.reverse)
        else none := by
  obtain ⟨xs, left₁, ys, right₁, first, hfirst, hleft, hright, hfronts, hlength⟩ :=
    exists_fronts cmp left.length left right
  obtain ⟨ys', right₂, xs', left₂, last, hlast, hright', hleft', hfronts', hlength'⟩ :=
    exists_fronts (fun a b => cmp b a) left.length right.reverse left.reverse
  have hleft₂ : left = left₂.reverse ++ xs'.reverse := by
    rw [← List.reverse_append, ← hleft', List.reverse_reverse]
  have hright₂ : right = right₂.reverse ++ ys'.reverse := by
    rw [← List.reverse_append, ← hright', List.reverse_reverse]
  refine ⟨xs, left₁, ys, right₁, first, left₂.reverse, xs'.reverse, right₂.reverse, ys'.reverse,
    last, hleft, hright, hleft₂, hright₂, hfronts, by simpa using hfronts', fun hle => ?_, ?_⟩
  · exact ⟨hlength (Nat.le_refl _) hle, hlength' (by simpa using hle) (by simp)⟩
  · have hll := congrArg List.length hleft
    have hrl := congrArg List.length hright
    rw [List.length_append] at hll hrl
    have hl : left₁.length + left₂.length - left.length = left₂.length - xs.length := by omega
    have hr : right₁.length + right₂.length - right.length = right₂.length - ys.length := by omega
    rw [mergeHalves?, hfirst, hlast]
    simp only [hl, hr, List.length_reverse]
    refine ite_congr (propext ?_) (fun _ => rfl) fun _ => rfl
    omega

theorem mergeHalves?_perm {left right merged : List α}
    (h : mergeHalves? cmp left right = some merged) : merged.Perm (left ++ right) := by
  obtain ⟨xs, left₁, ys, right₁, first, left₂, xs', right₂, ys', last, rfl, rfl, hleft, hright,
    hfronts, hfronts', -, hmerge⟩ := exists_mergeHalves? cmp left right
  rw [hmerge] at h
  split at h
  · rename_i hle
    cases h
    obtain ⟨-, hl⟩ := exists_between hleft hle.1
    obtain ⟨-, hr⟩ := exists_between hright hle.2
    classical
    refine List.perm_iff_count.mpr fun a => ?_
    have hfirst := hfronts.perm.count_eq a
    have hlast := hfronts'.perm.count_eq a
    have hl' := congrArg (List.count a) hl
    have hr' := congrArg (List.count a) hr
    simp only [List.count_append, List.count_reverse] at hfirst hlast hl' hr' ⊢
    omega
  · cases h

/-- Two cuts leave a front, a back and the items between, which are put together again. -/
theorem sorts_around (h : TotalPreorderOn cmp S) {xs ms xs' ys ns ys' first last : List α}
    (hl : ∀ a ∈ xs ++ (ms ++ xs'), a ∈ S) (hr : ∀ b ∈ ys ++ (ns ++ ys'), b ∈ S)
    (hleft : (xs ++ (ms ++ xs')).Pairwise fun a b => ¬ cmp b a = .lt)
    (hright : (ys ++ (ns ++ ys')).Pairwise fun a b => ¬ cmp b a = .lt)
    (hcut : Cut cmp xs (ms ++ xs') ys (ns ++ ys')) (hcut' : Cut cmp (xs ++ ms) xs' (ys ++ ns) ys')
    (hfirst : Sorts cmp S (xs ++ ys) first) (hlast : Sorts cmp S (xs' ++ ys') last)
    (hmiddle : (ms ++ ns).length ≤ 1) :
    Sorts cmp S ((xs ++ (ms ++ xs')) ++ (ys ++ (ns ++ ys'))) (first ++ (ms ++ ns ++ last)) := by
  have hbefore := hcut.not_lt h hl hr hleft hright
  have hbehind := hcut'.not_lt h (by simpa using hl) (by simpa using hr)
    (by simpa using hleft) (by simpa using hright)
  have hsingle : (ms ++ ns).Pairwise fun a b => ¬ cmp b a = .lt := by
    rcases hlist : ms ++ ns with _ | ⟨a, _ | ⟨b, rest⟩⟩
    · exact .nil
    · exact List.pairwise_singleton _ a
    · rw [hlist] at hmiddle
      simp at hmiddle
  refine .of_rearranged ?_
    (hfirst.append (Sorts.append ⟨.refl (ms ++ ns), hsingle⟩ hlast ?_) ?_)
  · -- What the front takes of the right list moves past the rest of the left one, and so does
    -- what is between.
    have hfront := (Rearranged.comm h ys (ms ++ xs') (fun b hb => hr b (by simp [hb]))
      (fun a ha => hl a (List.mem_append_right xs ha)) hcut.lt).symm
    have hback := (Rearranged.comm h ns xs' (fun b hb => hr b (by simp [hb]))
      (fun a ha => hl a (by simp [ha])) fun b hb => hcut'.lt b (by simp [hb])).symm
    have hmoved := (hfront.append_left xs).append_right (ns ++ ys')
    have hmoved' := (hback.append_left (xs ++ ys ++ ms)).append_right ys'
    simp only [List.append_assoc] at hmoved hmoved' ⊢
    exact hmoved.trans hmoved'
  · intro a ha
    refine hbehind a ?_
    simp only [List.mem_append] at ha ⊢
    tauto
  · intro a ha b hb
    refine hbefore a ha b ?_
    simp only [List.mem_append] at hb ⊢
    tauto

/-- If items are ordered, the ends meet. -/
theorem sorts_mergeHalves? (h : TotalPreorderOn cmp S) {left right : List α}
    (hl : ∀ a ∈ left, a ∈ S) (hr : ∀ b ∈ right, b ∈ S)
    (hleft : left.Pairwise fun a b => ¬ cmp b a = .lt)
    (hright : right.Pairwise fun a b => ¬ cmp b a = .lt) (hle : left.length ≤ right.length)
    (hge : right.length ≤ left.length + 1) :
    ∃ merged, mergeHalves? cmp left right = some merged ∧ Sorts cmp S (left ++ right) merged := by
  obtain ⟨xs, left₁, ys, right₁, first, left₂, xs', right₂, ys', last, hfront, hfront', hback,
    hback', hfronts, hfronts', hlengths, hmerge⟩ := exists_mergeHalves? cmp left right
  obtain ⟨hfirst, hlast⟩ := hlengths hle
  obtain ⟨hsorts, hcut⟩ := hfronts.sorts h (hfront ▸ hl) (hfront' ▸ hr) (hfront ▸ hleft)
    (hfront' ▸ hright)
  obtain ⟨hsorts', hcut'⟩ := hfronts'.sorts_back h (hback ▸ hl) (hback' ▸ hr) (hback ▸ hleft)
    (hback' ▸ hright)
  have hbefore := hcut.not_lt h (hfront ▸ hl) (hfront' ▸ hr) (hfront ▸ hleft) (hfront' ▸ hright)
  have hbehind := hcut'.not_lt h (hback ▸ hl) (hback' ▸ hr) (hback ▸ hleft) (hback' ▸ hright)
  -- As many items are taken from either end, and at most one is left.
  have htaken : xs.length + ys.length = left.length := by
    rw [← List.length_append, ← hfronts.perm.length_eq, hfirst]
  have htaken' : xs'.length + ys'.length = left.length := by
    rw [← List.length_append, ← hsorts'.perm.length_eq, List.length_reverse, hlast]
  have hll := congrArg List.length hback
  have hrl := congrArg List.length hback'
  rw [List.length_append] at hll hrl
  have hwithin := hcut.length_le hcut' (hfront.symm.trans hback) (hfront'.symm.trans hback')
    (by omega)
  rw [hmerge, if_pos hwithin]
  refine ⟨_, rfl, ?_⟩
  obtain ⟨hmid, hrest⟩ := exists_between (hfront.symm.trans hback) hwithin.1
  obtain ⟨hmid', hrest'⟩ := exists_between (hfront'.symm.trans hback') hwithin.2
  generalize left₁.take (left₂.length - xs.length) = ms at hmid hrest ⊢
  generalize right₁.take (right₂.length - ys.length) = ns at hmid' hrest' ⊢
  subst hmid hrest hmid' hrest'
  simp only [List.length_append] at hll hrl
  rw [List.append_assoc, List.append_assoc, ← List.append_assoc ms, hfront, hfront']
  rw [hfront] at hl hleft
  rw [hfront'] at hr hright
  refine sorts_around h hl hr hleft hright hcut hcut' hsorts hsorts' ?_
  rw [List.length_append]
  omega

/-! ## Short lists -/

theorem small?_perm {items sorted : List α} (h : small? cmp items = some sorted) :
    sorted.Perm items := by
  refine (mergeHalves?_perm h).trans (((sortHalf_perm _ _ _).append (sortHalf_perm _ _ _)).trans ?_)
  rw [List.take_append_drop]

theorem small?_eq (h : TotalPreorderOn cmp S) {items : List α} (hS : ∀ a ∈ items, a ∈ S) :
    small? cmp items = some (insertion cmp items) := by
  have htake : ∀ a ∈ items.take (items.length / 2), a ∈ S :=
    fun a ha => hS a (List.mem_of_mem_take ha)
  have hdrop : ∀ a ∈ items.drop (items.length / 2), a ∈ S :=
    fun a ha => hS a (List.mem_of_mem_drop ha)
  have hleft := sorts_insertion h htake
  have hright := sorts_insertion h hdrop
  dsimp only [small?]
  rw [sortHalf_eq_insertion h htake, sortHalf_eq_insertion h hdrop]
  have hll := hleft.perm.length_eq
  have hrl := hright.perm.length_eq
  rw [List.length_take] at hll
  rw [List.length_drop] at hrl
  obtain ⟨merged, hmerge, hsorts⟩ := sorts_mergeHalves? h (hleft.forall_mem htake)
    (hright.forall_mem hdrop) hleft.in_order hright.in_order (by omega) (by omega)
  have hmoved := hleft.toRearranged.append hright.toRearranged
  rw [List.take_append_drop] at hmoved
  rw [hmerge, (hsorts.of_rearranged hmoved).eq_insertion h hS]

end DocUpdate.StableSort
