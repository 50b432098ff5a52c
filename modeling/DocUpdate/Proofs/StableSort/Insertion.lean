import DocUpdate.Proofs.StableSort.Stability
import DocUpdate.StableSort.Small

/-!
# Sorting by insertion is stable

An item is put behind all items it is not before. So where items are ordered, placing them one
after another gives the one list of them that is in order and keeps what was in order already.
-/

namespace DocUpdate.StableSort

universe u

variable {α : Type u} {cmp : α → α → Ordering} {S : Set α} {item : α} {items placed : List α}

/-! ## The same items -/

theorem place_perm (cmp : α → α → Ordering) (item : α) (items : List α) :
    (place cmp item items).Perm (item :: items) := by
  induction items with
  | nil => exact .refl _
  | cons last rest ih =>
    rw [place]
    split
    · exact (ih.cons last).trans (.swap item last rest)
    · exact .refl _

theorem foldl_place_perm (cmp : α → α → Ordering) (items placed : List α) :
    (items.foldl (fun placed item => place cmp item placed) placed).Perm (placed ++ items) := by
  induction items generalizing placed with
  | nil => rw [List.append_nil]; exact .refl _
  | cons item rest ih =>
    rw [List.foldl_cons]
    refine (ih _).trans ?_
    exact ((place_perm cmp item placed).append_right rest).trans List.perm_middle.symm

theorem placeAll_perm (cmp : α → α → Ordering) (placed items : List α) :
    (placeAll cmp placed items).Perm (placed ++ items) :=
  (List.reverse_perm _).trans ((foldl_place_perm cmp items placed.reverse).trans
    ((List.reverse_perm placed).append_right items))

theorem insertion_perm (cmp : α → α → Ordering) (items : List α) :
    (insertion cmp items).Perm items := placeAll_perm cmp [] items

/-- More items are placed among those that were sorted the same way. -/
theorem placeAll_insertion (cmp : α → α → Ordering) (xs ys : List α) :
    placeAll cmp (insertion cmp xs) ys = insertion cmp (xs ++ ys) := by
  rw [insertion, insertion, placeAll, placeAll, placeAll, List.reverse_reverse,
    List.foldl_append]

/-! ## Their order -/

/-- An item is put between those it is not before and those it is before. -/
theorem exists_place (h : TotalPreorderOn cmp S) (hitem : item ∈ S) (hS : ∀ a ∈ placed, a ∈ S)
    (hplaced : placed.Pairwise fun b a => ¬ cmp b a = .lt) :
    ∃ front back : List α, placed.reverse = front ++ back ∧
      (place cmp item placed).reverse = front ++ item :: back ∧
      (∀ a ∈ front, ¬ cmp item a = .lt) ∧ ∀ b ∈ back, cmp item b = .lt := by
  induction placed with
  | nil => exact ⟨[], [], rfl, rfl, nofun, nofun⟩
  | cons last rest ih =>
    obtain ⟨hlast, hrest⟩ := List.pairwise_cons.mp hplaced
    by_cases hlt : cmp item last = .lt
    · obtain ⟨front, back, hsplit, hplace, hfront, hback⟩ :=
        ih (fun a ha => hS a (by simp [ha])) hrest
      refine ⟨front, back ++ [last], ?_, ?_, hfront, fun b hb => ?_⟩
      · rw [List.reverse_cons, hsplit, List.append_assoc]
      · rw [place, hlt, if_pos (by rfl), List.reverse_cons, hplace, List.append_assoc]
        rfl
      · rcases List.mem_append.mp hb with hb | hb
        · exact hback b hb
        · rwa [List.mem_singleton.mp hb]
    · refine ⟨(last :: rest).reverse, [], (List.append_nil _).symm, ?_, fun a ha hia => ?_, nofun⟩
      · rw [place, if_neg (by simpa using hlt), List.reverse_cons]
      · rw [List.mem_reverse] at ha
        have hlastS := hS last (by simp)
        rcases List.mem_cons.mp ha with rfl | ha
        · exact hlt hia
        · -- The item is not before the last one, nor is that before any other.
          have haS := hS a (by simp [ha])
          have hle := h.ne_gt_of_ne_lt hlastS haS (hlast a ha)
          exact hlt (h.lt_of_lt_of_le hitem haS hlastS hia hle)

/-- Placing one more item keeps what is placed sorted. -/
theorem stablySorted_place (h : TotalPreorderOn cmp S) (hitem : item ∈ S)
    (hS : ∀ a ∈ placed, a ∈ S) (hsorted : StablySorted (cmp · · = .lt) items placed.reverse) :
    StablySorted (cmp · · = .lt) (items ++ [item]) (place cmp item placed).reverse := by
  obtain ⟨front, back, hsplit, hplace, hfront, hback⟩ :=
    exists_place h hitem hS (List.pairwise_reverse.mp hsorted.in_order)
  have hbackS : ∀ b ∈ back, b ∈ S := fun b hb =>
    hS b (List.mem_reverse.mp (hsplit ▸ List.mem_append_right front hb))
  rw [hsplit] at hsorted
  rw [hplace]
  obtain ⟨hperm, horder, hstable⟩ := hsorted
  obtain ⟨hfrontOrder, hbackOrder, hacross⟩ := List.pairwise_append.mp horder
  refine ⟨?perm, ?in_order, fun kept hkept hkeptOrder => ?stable⟩
  case perm =>
    exact List.perm_middle.trans
      ((hperm.cons item).trans (List.perm_append_singleton item items).symm)
  case in_order =>
    refine List.pairwise_append.mpr ⟨hfrontOrder, List.pairwise_cons.mpr ⟨?_, hbackOrder⟩, ?_⟩
    · exact fun b hb => h.not_lt_of_lt hitem (hbackS b hb) (hback b hb)
    · intro a ha b hb
      rcases List.mem_cons.mp hb with rfl | hb
      · exact hfront a ha
      · exact hacross a ha b hb
  case stable =>
    obtain ⟨early, late, rfl, hearly, hlate⟩ := List.sublist_append_iff.mp hkept
    obtain ⟨hearlyOrder, -, hearlyLate⟩ := List.pairwise_append.mp hkeptOrder
    have hkeep := hstable early hearly hearlyOrder
    rcases List.sublist_singleton.mp hlate with rfl | rfl
    · rw [List.append_nil]
      exact hkeep.trans ((List.sublist_cons_self item back).append_left front)
    · -- Nothing that the item follows was put behind it.
      obtain ⟨first, second, rfl, hfirst, hsecond⟩ := List.sublist_append_iff.mp hkeep
      have hnil : second = [] := by
        refine List.eq_nil_iff_forall_not_mem.mpr fun b hb => ?_
        exact hearlyLate b (by simp [hb]) item (by simp) (hback b (hsecond.subset hb))
      subst hnil
      rw [List.append_nil]
      exact hfirst.append (List.singleton_sublist.mpr (by simp))

theorem stablySorted_foldl_place (h : TotalPreorderOn cmp S) {rest : List α}
    (hrest : ∀ a ∈ rest, a ∈ S) (hS : ∀ a ∈ placed, a ∈ S)
    (hsorted : StablySorted (cmp · · = .lt) items placed.reverse) :
    StablySorted (cmp · · = .lt) (items ++ rest)
      (rest.foldl (fun placed item => place cmp item placed) placed).reverse := by
  induction rest generalizing items placed with
  | nil => rwa [List.append_nil]
  | cons item rest ih =>
    have hitem := hrest item (by simp)
    rw [List.foldl_cons, List.append_cons]
    refine ih (fun a ha => hrest a (by simp [ha])) (fun a ha => ?_)
      (stablySorted_place h hitem hS hsorted)
    rcases List.mem_cons.mp ((place_perm cmp item placed).subset ha) with rfl | ha
    · exact hitem
    · exact hS a ha

theorem stablySorted_insertion (h : TotalPreorderOn cmp S) (hS : ∀ a ∈ items, a ∈ S) :
    StablySorted (cmp · · = .lt) items (insertion cmp items) := by
  have hnone : StablySorted (cmp · · = .lt) [] ([] : List α).reverse :=
    ⟨.refl _, .nil, fun _ hkept _ => hkept⟩
  exact stablySorted_foldl_place h hS (by simp) hnone

theorem sorts_insertion (h : TotalPreorderOn cmp S) (hS : ∀ a ∈ items, a ∈ S) :
    Sorts cmp S items (insertion cmp items) := .of_stablySorted h hS (stablySorted_insertion h hS)

/-- However items are sorted, insertion gives the same. -/
theorem Sorts.eq_insertion {sorted : List α} (h : TotalPreorderOn cmp S) (hS : ∀ a ∈ items, a ∈ S)
    (hsorted : Sorts cmp S items sorted) : sorted = insertion cmp items :=
  hsorted.unique h hS (sorts_insertion h hS)

end DocUpdate.StableSort
