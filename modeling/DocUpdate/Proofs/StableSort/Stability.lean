import DocUpdate.Proofs.Value.Preorder
import Mathlib.Data.List.Basic

/-!
# What stable sorting gives

Sorted items are in order, and items that compare equal stand as they stood. Among items that
are ordered there is one such list. Sorting moves items in several steps, and it is stable if
each step keeps the order of items that compare equal.
-/

namespace DocUpdate

universe u

variable {α : Type u} {cmp : α → α → Ordering} {S : Set α}

/-- `sorted` has the same items in order, and items that were in order before kept theirs. -/
structure StablySorted (before : α → α → Prop) (items sorted : List α) : Prop where
  perm : sorted.Perm items
  in_order : sorted.Pairwise fun a b => ¬ before b a
  stable : ∀ kept : List α, kept.Sublist items → (kept.Pairwise fun a b => ¬ before b a) →
    kept.Sublist sorted

/-! ## Items that compare equal -/

namespace TotalPreorderOn

variable {a b c : α}

/-- The same order, read from the back. -/
theorem flip (h : TotalPreorderOn cmp S) : TotalPreorderOn (fun a b => cmp b a) S where
  swap a ha b hb := h.swap b hb a ha
  trans a ha b hb c hc hab hbc := h.trans c hc b hb a ha hbc hab

/-- Items that compare equal compare alike with others. -/
theorem lt_iff_of_eq (h : TotalPreorderOn cmp S) (ha : a ∈ S) (hb : b ∈ S) (hc : c ∈ S)
    (hab : cmp a b = .eq) : cmp a c = .lt ↔ cmp b c = .lt := by
  have hba := h.eq_symm ha hb hab
  constructor
  · exact h.lt_of_le_of_lt hb ha hc (by simp [hba])
  · exact h.lt_of_le_of_lt ha hb hc (by simp [hab])

theorem gt_iff_of_eq (h : TotalPreorderOn cmp S) (ha : a ∈ S) (hb : b ∈ S) (hc : c ∈ S)
    (hab : cmp a b = .eq) : cmp c a = .lt ↔ cmp c b = .lt := by
  have hba := h.eq_symm ha hb hab
  constructor
  · exact fun hca => h.lt_of_lt_of_le hc ha hb hca (by simp [hab])
  · exact fun hcb => h.lt_of_lt_of_le hc hb ha hcb (by simp [hba])

/-- Of two items that compare equal to a third none is before the other. -/
theorem not_lt_of_eq (h : TotalPreorderOn cmp S) (ha : a ∈ S) (hb : b ∈ S) (hc : c ∈ S)
    (hab : cmp a b = .eq) (hac : cmp a c = .eq) : ¬ cmp b c = .lt := by
  rw [← h.lt_iff_of_eq ha hb hc hab, hac]
  nofun

end TotalPreorderOn

/-! ## There is one such list -/

namespace TotalPreorderOn

variable {items sorted : List α}

/-- Items that compare equal to one stand as they stood. -/
theorem filter_eq (h : TotalPreorderOn cmp S) (hS : ∀ a ∈ items, a ∈ S)
    (hsorted : StablySorted (cmp · · = .lt) items sorted) {a : α} (ha : a ∈ S) :
    sorted.filter (cmp a · = .eq) = items.filter (cmp a · = .eq) := by
  have hclass : (items.filter (cmp a · = .eq)).Pairwise fun b c => ¬ cmp c b = .lt := by
    refine List.pairwise_of_forall_mem_list fun b hb c hc => ?_
    rw [List.mem_filter, decide_eq_true_eq] at hb hc
    exact h.not_lt_of_eq ha (hS c hc.1) (hS b hb.1) hc.2 hb.2
  have hsub := (hsorted.stable _ List.filter_sublist hclass).filter (cmp a · = .eq)
  simp only [List.filter_filter, Bool.and_self] at hsub
  exact (hsub.eq_of_length (hsorted.perm.filter _).length_eq.symm).symm

/-- No item is before the first one in order. -/
theorem ne_lt_head (h : TotalPreorderOn cmp S) {x : α} {xs : List α} (hx : x ∈ S)
    (hxs : (x :: xs).Pairwise fun a b => ¬ cmp b a = .lt) : ∀ a ∈ x :: xs, cmp a x ≠ .lt := by
  refine List.forall_mem_cons.mpr ⟨?_, (List.pairwise_cons.mp hxs).1⟩
  rw [h.refl hx]
  nofun

/-- Items that are first in order compare equal. -/
theorem heads_eq (h : TotalPreorderOn cmp S) {x y : α} {xs ys : List α} (hx : x ∈ S) (hy : y ∈ S)
    (hperm : (x :: xs).Perm (y :: ys)) (hxs : (x :: xs).Pairwise fun a b => ¬ cmp b a = .lt)
    (hys : (y :: ys).Pairwise fun a b => ¬ cmp b a = .lt) : cmp x y = .eq := by
  have hyx := h.ne_lt_head hx hxs y (hperm.symm.subset (by simp))
  have hxy := h.ne_lt_head hy hys x (hperm.subset (by simp))
  have hle := h.ne_gt_of_ne_lt hy hx hyx
  cases hcmp : cmp x y with
  | lt => exact absurd hcmp hxy
  | eq => rfl
  | gt => exact absurd hcmp hle

/-- Lists in order are equal if the items that compare equal stand alike in both. -/
theorem eq_of_filter_eq (h : TotalPreorderOn cmp S) {xs ys : List α} (hS : ∀ a ∈ xs, a ∈ S)
    (hperm : xs.Perm ys) (hxs : xs.Pairwise fun a b => ¬ cmp b a = .lt)
    (hys : ys.Pairwise fun a b => ¬ cmp b a = .lt)
    (hfilter : ∀ a ∈ S, xs.filter (cmp a · = .eq) = ys.filter (cmp a · = .eq)) : xs = ys := by
  induction xs generalizing ys with
  | nil => exact hperm.nil_eq
  | cons x xs ih =>
    cases ys with
    | nil => exact hperm.eq_nil
    | cons y ys =>
      obtain ⟨hx, hrestS⟩ := List.forall_mem_cons.mp hS
      have heads := h.heads_eq hx (hS y (hperm.symm.subset (by simp))) hperm hxs hys
      have hhead := hfilter x hx
      simp only [List.filter_cons, h.refl hx, heads, decide_true, if_true] at hhead
      obtain rfl := (List.cons.inj hhead).1
      refine congrArg (x :: ·) (ih hrestS hperm.cons_inv (List.pairwise_cons.mp hxs).2
        (List.pairwise_cons.mp hys).2 fun a ha => ?_)
      have htail := hfilter a ha
      simp only [List.filter_cons] at htail
      split at htail
      · exact (List.cons.inj htail).2
      · exact htail

/-- There is only one way to sort items and keep what is in order. -/
theorem eq_of_stablySorted (h : TotalPreorderOn cmp S) (hS : ∀ a ∈ items, a ∈ S)
    {other : List α} (hsorted : StablySorted (cmp · · = .lt) items sorted)
    (hother : StablySorted (cmp · · = .lt) items other) : sorted = other := by
  refine h.eq_of_filter_eq (fun a ha => hS a (hsorted.perm.subset ha))
    (hsorted.perm.trans hother.perm.symm) hsorted.in_order hother.in_order fun a ha => ?_
  rw [h.filter_eq hS hsorted ha, h.filter_eq hS hother ha]

end TotalPreorderOn

/-! ## Moving items -/

namespace StableSort

/-- Items are moved, but those that compare equal keep their order. -/
structure Rearranged (cmp : α → α → Ordering) (S : Set α) (items moved : List α) : Prop where
  perm : moved.Perm items
  classes : ∀ a ∈ S, moved.filter (cmp a · = .eq) = items.filter (cmp a · = .eq)

/-- Items are put in order, and those that compare equal keep theirs. -/
structure Sorts (cmp : α → α → Ordering) (S : Set α) (items sorted : List α) : Prop extends
    Rearranged cmp S items sorted where
  in_order : sorted.Pairwise fun a b => ¬ cmp b a = .lt

variable {xs ys zs items moved other sorted : List α}

namespace Rearranged

theorem refl (items : List α) : Rearranged cmp S items items := ⟨.refl _, fun _ _ => rfl⟩

theorem symm (h : Rearranged cmp S items moved) : Rearranged cmp S moved items :=
  ⟨h.perm.symm, fun a ha => (h.classes a ha).symm⟩

theorem trans (h : Rearranged cmp S items moved) (h' : Rearranged cmp S moved other) :
    Rearranged cmp S items other :=
  ⟨h'.perm.trans h.perm, fun a ha => (h'.classes a ha).trans (h.classes a ha)⟩

theorem append (h : Rearranged cmp S xs ys) (h' : Rearranged cmp S items moved) :
    Rearranged cmp S (xs ++ items) (ys ++ moved) :=
  ⟨h.perm.append h'.perm, fun a ha => by
    rw [List.filter_append, List.filter_append, h.classes a ha, h'.classes a ha]⟩

theorem append_left (xs : List α) (h : Rearranged cmp S items moved) :
    Rearranged cmp S (xs ++ items) (xs ++ moved) := (refl xs).append h

theorem append_right (h : Rearranged cmp S items moved) (xs : List α) :
    Rearranged cmp S (items ++ xs) (moved ++ xs) := h.append (refl xs)

theorem reverse (h : Rearranged cmp S items moved) :
    Rearranged cmp S items.reverse moved.reverse := by
  refine ⟨(List.reverse_perm _).trans (h.perm.trans (List.reverse_perm _).symm), fun a ha => ?_⟩
  rw [List.filter_reverse, List.filter_reverse, h.classes a ha]

theorem forall_mem (h : Rearranged cmp S items moved) (hS : ∀ a ∈ items, a ∈ S) :
    ∀ a ∈ moved, a ∈ S := fun a ha => hS a (h.perm.subset ha)

/-- Read from the back, the same items compare equal. -/
theorem of_flip (h : TotalPreorderOn cmp S) (hS : ∀ a ∈ items, a ∈ S)
    (hmoved : Rearranged (fun a b => cmp b a) S items moved) : Rearranged cmp S items moved := by
  refine ⟨hmoved.perm, fun a ha => ?_⟩
  have heq : ∀ b ∈ S, decide (cmp a b = .eq) = decide (cmp b a = .eq) := fun b hb =>
    decide_eq_decide.mpr ⟨h.eq_symm ha hb, h.eq_symm hb ha⟩
  rw [List.filter_congr fun b hb => heq b (hS b hb),
    List.filter_congr fun b hb => heq b (hmoved.forall_mem hS b hb)]
  exact hmoved.classes a ha

/-- Items may change places with items that they are before. -/
theorem comm (h : TotalPreorderOn cmp S) (xs ys : List α) (hxs : ∀ a ∈ xs, a ∈ S)
    (hys : ∀ a ∈ ys, a ∈ S) (hlt : ∀ a ∈ xs, ∀ b ∈ ys, cmp a b = .lt) : Rearranged cmp S (xs ++ ys) (ys ++ xs) := by
  refine ⟨List.perm_append_comm, fun c hc => ?_⟩
  rw [List.filter_append, List.filter_append]
  by_cases hx : ∃ a ∈ xs, cmp c a = .eq
  · obtain ⟨a, ha, hca⟩ := hx
    have hnone : ys.filter (cmp c · = .eq) = [] := by
      refine List.filter_eq_nil_iff.mpr fun b hb => ?_
      rw [decide_eq_true_eq]
      intro hcb
      exact h.not_lt_of_eq hc (hxs a ha) (hys b hb) hca hcb (hlt a ha b hb)
    rw [hnone, List.nil_append, List.append_nil]
  · have hnone : xs.filter (cmp c · = .eq) = [] :=
      List.filter_eq_nil_iff.mpr fun a ha => by simpa using fun hca => hx ⟨a, ha, hca⟩
    rw [hnone, List.append_nil, List.nil_append]

/-- Items may be moved in front of the others by anything that does not tell items apart that
compare equal. -/
theorem partition {p q : α → Bool} (hS : ∀ a ∈ items, a ∈ S) (hq : ∀ a, q a = !p a)
    (hp : ∀ a ∈ S, ∀ b ∈ S, cmp a b = .eq → p a = p b) :
    Rearranged cmp S items (items.filter p ++ items.filter q) := by
  obtain rfl : q = (!p ·) := funext hq
  refine ⟨List.filter_append_perm p items, fun a ha => ?_⟩
  have hclass : ∀ b ∈ items, cmp a b = .eq → p b = p a :=
    fun b hb hab => (hp a ha b (hS b hb) hab).symm
  have hall : ∀ q : α → Bool, (∀ b ∈ items, cmp a b = .eq → q b = true) →
      (items.filter q).filter (cmp a · = .eq) = items.filter (cmp a · = .eq) := by
    intro q hq
    rw [List.filter_filter]
    refine List.filter_congr fun b hb => ?_
    by_cases hab : cmp a b = .eq <;> simp [hab, hq b hb]
  have hnone : ∀ q : α → Bool, (∀ b ∈ items, cmp a b = .eq → q b = false) →
      (items.filter q).filter (cmp a · = .eq) = [] := by
    intro q hq
    refine List.filter_eq_nil_iff.mpr fun b hb hab => ?_
    rw [List.mem_filter] at hb
    rw [hq b hb.1 (of_decide_eq_true hab)] at hb
    cases hb.2
  rw [List.filter_append]
  cases hpa : p a with
  | true =>
    rw [hall p (by simpa [hpa] using hclass), hnone (!p ·) (by simpa [hpa] using hclass),
      List.append_nil]
  | false =>
    rw [hnone p (by simpa [hpa] using hclass), hall (!p ·) (by simpa [hpa] using hclass),
      List.nil_append]

end Rearranged

namespace Sorts

theorem of_rearranged (hmoved : Rearranged cmp S items moved) (h : Sorts cmp S moved sorted) :
    Sorts cmp S items sorted := ⟨hmoved.trans h.toRearranged, h.in_order⟩

theorem append (h : Sorts cmp S xs ys) (h' : Sorts cmp S items sorted)
    (hle : ∀ a ∈ xs, ∀ b ∈ items, ¬ cmp b a = .lt) :
    Sorts cmp S (xs ++ items) (ys ++ sorted) := by
  refine ⟨h.toRearranged.append h'.toRearranged, ?_⟩
  refine List.pairwise_append.mpr ⟨h.in_order, h'.in_order, fun a ha b hb => ?_⟩
  exact hle a (h.perm.subset ha) b (h'.perm.subset hb)

/-- An item that no other is before stays in front of them. -/
theorem cons {a : α} (h : Sorts cmp S items sorted) (hle : ∀ b ∈ items, ¬ cmp b a = .lt) :
    Sorts cmp S (a :: items) (a :: sorted) := by
  have hsingle : Sorts cmp S [a] [a] := ⟨.refl _, List.pairwise_singleton _ a⟩
  exact hsingle.append h (by simpa using hle)

/-- An item that is before those in front of it and behind none that follow goes to the front. -/
theorem cons_middle (h : TotalPreorderOn cmp S) {b : α} (hb : b ∈ S) (hxs : ∀ a ∈ xs, a ∈ S)
    (hsorted : Sorts cmp S (xs ++ ys) sorted) (hlt : ∀ a ∈ xs, cmp b a = .lt)
    (hle : ∀ a ∈ ys, ¬ cmp a b = .lt) : Sorts cmp S (xs ++ b :: ys) (b :: sorted) := by
  have hcomm := Rearranged.comm h [b] xs (by simpa using hb) hxs (by simpa using hlt)
  have hmoved : Rearranged cmp S (xs ++ b :: ys) (b :: (xs ++ ys)) := by
    simpa using hcomm.symm.append_right ys
  refine .of_rearranged hmoved (hsorted.cons fun a ha => ?_)
  rcases List.mem_append.mp ha with ha | ha
  · exact h.not_lt_of_lt hb (hxs a ha) (hlt a ha)
  · exact hle a ha

theorem reverse (h : TotalPreorderOn cmp S) (hS : ∀ a ∈ items, a ∈ S)
    (hsorted : Sorts (fun a b => cmp b a) S items sorted) :
    Sorts cmp S items.reverse sorted.reverse :=
  ⟨(hsorted.toRearranged.of_flip h hS).reverse, List.pairwise_reverse.mpr hsorted.in_order⟩

theorem unique (h : TotalPreorderOn cmp S) (hS : ∀ a ∈ items, a ∈ S)
    (hsorted : Sorts cmp S items sorted) (hother : Sorts cmp S items other) : sorted = other := by
  refine h.eq_of_filter_eq (hsorted.forall_mem hS) (hsorted.perm.trans hother.perm.symm)
    hsorted.in_order hother.in_order fun a ha => ?_
  rw [hsorted.classes a ha, hother.classes a ha]

theorem of_stablySorted (h : TotalPreorderOn cmp S) (hS : ∀ a ∈ items, a ∈ S)
    (hsorted : StablySorted (cmp · · = .lt) items sorted) : Sorts cmp S items sorted :=
  ⟨⟨hsorted.perm, fun _ ha => h.filter_eq hS hsorted ha⟩, hsorted.in_order⟩

end Sorts

end StableSort

end DocUpdate
