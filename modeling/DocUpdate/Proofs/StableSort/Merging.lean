import DocUpdate.Proofs.StableSort.Insertion
import DocUpdate.StableSort.Runs

/-!
# Merging is stable

Two lists in order are merged to one. From which end that is done makes no difference, and two
pairs that are told apart by their ends are merged the same way.
-/

namespace DocUpdate.StableSort

universe u

variable {α : Type u} {cmp : α → α → Ordering} {S : Set α} {left right : List α}

/-! ## Merging from the front -/

/-- What is put in front of others is not behind any of them. -/
theorem not_lt_of_cons (h : TotalPreorderOn cmp S) {a b : α} {xs : List α} (ha : a ∈ S) (hb : b ∈ S)
    (hxs : ∀ x ∈ xs, x ∈ S) (hab : ¬ cmp b a = .lt)
    (horder : (b :: xs).Pairwise fun x y => ¬ cmp y x = .lt) : ∀ x ∈ b :: xs, ¬ cmp x a = .lt := by
  intro x hx hxa
  rcases List.mem_cons.mp hx with rfl | hx
  · exact hab hxa
  · have hbx := h.ne_gt_of_ne_lt (hxs x hx) hb ((List.pairwise_cons.mp horder).1 x hx)
    exact hab (h.lt_of_le_of_lt hb (hxs x hx) ha hbx hxa)

/-- What is before the first of items in order is before all of them. -/
theorem lt_of_cons (h : TotalPreorderOn cmp S) {a b : α} {xs : List α} (ha : a ∈ S) (hb : b ∈ S)
    (hxs : ∀ x ∈ xs, x ∈ S) (hba : cmp b a = .lt)
    (horder : (a :: xs).Pairwise fun x y => ¬ cmp y x = .lt) : ∀ x ∈ a :: xs, cmp b x = .lt := by
  intro x hx
  rcases List.mem_cons.mp hx with rfl | hx
  · exact hba
  · have hax := h.ne_gt_of_ne_lt (hxs x hx) ha ((List.pairwise_cons.mp horder).1 x hx)
    exact h.lt_of_lt_of_le hb ha (hxs x hx) hba hax

theorem sorts_merge_front (h : TotalPreorderOn cmp S) (hl : ∀ a ∈ left, a ∈ S)
    (hr : ∀ b ∈ right, b ∈ S) (hleft : left.Pairwise fun a b => ¬ cmp b a = .lt)
    (hright : right.Pairwise fun a b => ¬ cmp b a = .lt) :
    Sorts cmp S (left ++ right) (left.merge right fun a b => cmp b a != .lt) := by
  induction left generalizing right with
  | nil =>
    rw [List.nil_merge]
    exact ⟨.refl _, hright⟩
  | cons a left ih =>
    induction right with
    | nil =>
      rw [List.merge_right, List.append_nil]
      exact ⟨.refl _, hleft⟩
    | cons b right ihright =>
      obtain ⟨ha, hl'⟩ := List.forall_mem_cons.mp hl
      obtain ⟨hb, hr'⟩ := List.forall_mem_cons.mp hr
      rw [List.cons_merge_cons]
      by_cases hba : cmp b a = .lt
      · have hlt := lt_of_cons h ha hb hl' hba hleft
        rw [if_neg (by simp [hba])]
        exact (ihright hr' hright.tail).cons_middle h hb hl hlt (List.pairwise_cons.mp hright).1
      · rw [if_pos (by simpa using hba)]
        refine (ih hl' hr hleft.tail hright).cons fun x hx => ?_
        rcases List.mem_append.mp hx with hx | hx
        · exact (List.pairwise_cons.mp hleft).1 x hx
        · exact not_lt_of_cons h ha hb hr' hba hright x hx

/-! ## Merging from either end -/

theorem merge_perm (cmp : α → α → Ordering) (left right : List α) :
    (merge cmp left right).Perm (left ++ right) := by
  unfold merge
  split
  · exact List.merge_perm_append _
  · refine (List.reverse_perm _).trans ((List.merge_perm_append _).trans ?_)
    rw [← List.reverse_append]
    exact List.reverse_perm _

theorem sorts_merge (h : TotalPreorderOn cmp S) (hl : ∀ a ∈ left, a ∈ S)
    (hr : ∀ b ∈ right, b ∈ S) (hleft : left.Pairwise fun a b => ¬ cmp b a = .lt)
    (hright : right.Pairwise fun a b => ¬ cmp b a = .lt) :
    Sorts cmp S (left ++ right) (merge cmp left right) := by
  unfold merge
  split
  · exact sorts_merge_front h hl hr hleft hright
  · -- From the back the right list comes first, and items are compared the other way round.
    have hback : Sorts (fun a b => cmp b a) S (right.reverse ++ left.reverse) _ :=
      sorts_merge_front h.flip (by simpa using hr) (by simpa using hl)
        (List.pairwise_reverse.mpr hright) (List.pairwise_reverse.mpr hleft)
    rw [← List.reverse_append] at hback
    have hS : ∀ a ∈ (left ++ right).reverse, a ∈ S := by
      simpa [or_imp, forall_and] using ⟨hr, hl⟩
    simpa using hback.reverse h hS

/-! ## Two pairs -/

theorem pair_perm (cmp : α → α → Ordering) (a b : α) :
    [(pair cmp a b).1, (pair cmp a b).2].Perm [a, b] := by
  unfold pair
  split
  · exact .swap a b []
  · exact .refl _

/-- Two items are put in order by merging them. -/
theorem sorts_pair (h : TotalPreorderOn cmp S) {a b : α} (ha : a ∈ S) (hb : b ∈ S) :
    Sorts cmp S [a, b] [(pair cmp a b).1, (pair cmp a b).2] := by
  have hmerge : [(pair cmp a b).1, (pair cmp a b).2] = [a].merge [b] fun x y => cmp y x != .lt := by
    by_cases hba : cmp b a = .lt <;> simp [pair, hba]
  rw [hmerge]
  exact sorts_merge_front h (by simpa using ha) (by simpa using hb) (List.pairwise_singleton _ a)
    (List.pairwise_singleton _ b)

theorem mergePairs_perm (cmp : α → α → Ordering) (p q : α × α) :
    (mergePairs cmp p q).Perm ([p.1, p.2] ++ [q.1, q.2]) := by
  obtain ⟨a, b⟩ := p
  obtain ⟨c, d⟩ := q
  dsimp only [mergePairs]
  split_ifs
  · have hends : [c, a, d, b].Perm [a, b, c, d] := by
      have hrest : [d, b].Perm [b, d] := .swap b d []
      exact (List.Perm.swap a c [d, b]).trans (((hrest.cons c).trans (.swap b c [d])).cons a)
    exact (((pair_perm cmp a d).append_right [b]).cons c).trans hends
  · have hfirst : ([c] ++ [a, b]).Perm ([a, b] ++ [c]) := List.perm_append_comm
    exact (((pair_perm cmp a b).cons c).trans hfirst).append_right [d]
  · have hlast : ([c, d] ++ [b]).Perm ([b] ++ [c, d]) := List.perm_append_comm
    exact (((pair_perm cmp c d).append_right [b]).trans hlast).cons a
  · exact ((pair_perm cmp b c).append_right [d]).cons a

/-- Pairs in order are merged by comparing their ends first. -/
theorem mergePairs_eq_merge (h : TotalPreorderOn cmp S) {a b c d : α} (ha : a ∈ S) (hb : b ∈ S)
    (hc : c ∈ S) (hd : d ∈ S) (hab : ¬ cmp b a = .lt) (hcd : ¬ cmp d c = .lt) :
    mergePairs cmp (a, b) (c, d) = [a, b].merge [c, d] fun x y => cmp y x != .lt := by
  have hcb : cmp d b = .lt → cmp c b = .lt := h.lt_of_le_of_lt hc hd hb (h.ne_gt_of_ne_lt hd hc hcd)
  have hdb : cmp d a = .lt → cmp d b = .lt :=
    fun hda => h.lt_of_lt_of_le hd ha hb hda (h.ne_gt_of_ne_lt hb ha hab)
  unfold mergePairs pair
  by_cases hca : cmp c a = .lt <;> by_cases hdb' : cmp d b = .lt
  · by_cases hda : cmp d a = .lt <;> simp [hca, hdb', hda]
  · have hda : ¬ cmp d a = .lt := fun hda => hdb' (hdb hda)
    simp [hca, hdb', hda, hab]
  · simp [hca, hdb', hcb hdb', hcd]
  · by_cases hcb' : cmp c b = .lt <;> simp [hca, hdb', hcb']

theorem sorts_mergePairs (h : TotalPreorderOn cmp S) {xs ys : List α} {p q : α × α}
    (hxs : ∀ a ∈ xs, a ∈ S) (hys : ∀ a ∈ ys, a ∈ S) (hp : Sorts cmp S xs [p.1, p.2])
    (hq : Sorts cmp S ys [q.1, q.2]) : Sorts cmp S (xs ++ ys) (mergePairs cmp p q) := by
  have hpS := hp.forall_mem hxs
  have hqS := hq.forall_mem hys
  refine .of_rearranged (hp.toRearranged.append hq.toRearranged) ?_
  have hab := List.pairwise_pair.mp hp.in_order
  have hcd := List.pairwise_pair.mp hq.in_order
  rw [mergePairs_eq_merge h (hpS _ (by simp)) (hpS _ (by simp)) (hqS _ (by simp))
    (hqS _ (by simp)) hab hcd]
  exact sorts_merge_front h hpS hqS hp.in_order hq.in_order

/-! ## Halves -/

theorem sortHalf_perm (cmp : α → α → Ordering) (pairs : Bool) (items : List α) :
    (sortHalf cmp pairs items).Perm items := by
  unfold sortHalf
  split
  · rename_i a b c d rest
    have hfour : (mergePairs cmp (pair cmp a b) (pair cmp c d)).Perm ([a, b] ++ [c, d]) :=
      (mergePairs_perm cmp _ _).trans ((pair_perm cmp a b).append (pair_perm cmp c d))
    exact (placeAll_perm cmp _ rest).trans (hfour.append_right rest)
  · exact insertion_perm cmp items

/-- Beginning with two pairs gives what insertion gives. -/
theorem sortHalf_eq_insertion (h : TotalPreorderOn cmp S) {items : List α} (hS : ∀ a ∈ items, a ∈ S)
    (pairs : Bool) : sortHalf cmp pairs items = insertion cmp items := by
  unfold sortHalf
  split
  · rename_i a b c d rest
    obtain ⟨ha, hb, hc, hd, -⟩ : a ∈ S ∧ b ∈ S ∧ c ∈ S ∧ d ∈ S ∧ ∀ x ∈ rest, x ∈ S := by
      simpa using hS
    have hab : ∀ x ∈ [a, b], x ∈ S := by simp [ha, hb]
    have hcd : ∀ x ∈ [c, d], x ∈ S := by simp [hc, hd]
    have hfour := sorts_mergePairs h hab hcd (sorts_pair h ha hb) (sorts_pair h hc hd)
    rw [hfour.eq_insertion h (List.forall_mem_append.mpr ⟨hab, hcd⟩), placeAll_insertion]
    rfl
  · rfl

end DocUpdate.StableSort
