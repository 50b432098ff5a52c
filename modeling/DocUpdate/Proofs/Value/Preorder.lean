import Mathlib.Data.Set.Defs
import Mathlib.Order.Defs.LinearOrder

/-!
# Comparisons that sorting can use

A comparison orders a set of elements if it is reversed with its arguments and transitive among
them. Elements that compare as equal may differ. Finitely many elements are then compared as
their ranks.
-/

namespace DocUpdate

universe u v

variable {α : Type u} {β : Type v}

/-- Among the elements of `S` the comparison is a total preorder. -/
structure TotalPreorderOn (cmp : α → α → Ordering) (S : Set α) : Prop where
  swap : ∀ a ∈ S, ∀ b ∈ S, cmp b a = (cmp a b).swap
  trans : ∀ a ∈ S, ∀ b ∈ S, ∀ c ∈ S, cmp a b ≠ .gt → cmp b c ≠ .gt → cmp a c ≠ .gt

namespace TotalPreorderOn

variable {cmp first second : α → α → Ordering} {S : Set α} {a b c : α}

/-! ## Consequences -/

theorem refl (h : TotalPreorderOn cmp S) {a : α} (ha : a ∈ S) : cmp a a = .eq :=
  Ordering.eq_eq_of_eq_swap (h.swap a ha a ha)

theorem gt_of_lt (h : TotalPreorderOn cmp S) (ha : a ∈ S) (hb : b ∈ S) (hab : cmp a b = .lt) :
    cmp b a = .gt := by
  rw [h.swap a ha b hb, hab]
  rfl

theorem not_lt_of_lt (h : TotalPreorderOn cmp S) (ha : a ∈ S) (hb : b ∈ S) (hab : cmp a b = .lt) :
    ¬ cmp b a = .lt := by
  rw [h.gt_of_lt ha hb hab]
  nofun

theorem ne_gt_of_ne_lt (h : TotalPreorderOn cmp S) (ha : a ∈ S) (hb : b ∈ S)
    (hab : cmp a b ≠ .lt) : cmp b a ≠ .gt := by
  rw [h.swap a ha b hb]
  cases hcmp : cmp a b with
  | lt => exact absurd hcmp hab
  | _ => decide

theorem lt_of_lt_of_le (h : TotalPreorderOn cmp S) (ha : a ∈ S) (hb : b ∈ S) (hc : c ∈ S)
    (hab : cmp a b = .lt) (hbc : cmp b c ≠ .gt) : cmp a c = .lt := by
  by_contra hac
  have hba := h.trans b hb c hc a ha hbc (h.ne_gt_of_ne_lt ha hc hac)
  exact hba (h.gt_of_lt ha hb hab)

theorem lt_of_le_of_lt (h : TotalPreorderOn cmp S) (ha : a ∈ S) (hb : b ∈ S) (hc : c ∈ S)
    (hab : cmp a b ≠ .gt) (hbc : cmp b c = .lt) : cmp a c = .lt := by
  by_contra hac
  have hcb := h.trans c hc a ha b hb (h.ne_gt_of_ne_lt ha hc hac) hab
  exact hcb (h.gt_of_lt hb hc hbc)

theorem eq_symm (h : TotalPreorderOn cmp S) (ha : a ∈ S) (hb : b ∈ S) (hab : cmp a b = .eq) :
    cmp b a = .eq := by
  rw [h.swap a ha b hb, hab]
  rfl

/-! ## How comparisons are put together -/

/-- Elements are compared as what a function makes of them. -/
theorem of_transCmp {other : β → β → Ordering} [Std.TransCmp other] (f : α → β)
    (h : ∀ a ∈ S, ∀ b ∈ S, cmp a b = other (f a) (f b)) : TotalPreorderOn cmp S where
  swap a ha b hb := by
    rw [h a ha b hb, h b hb a ha]
    exact Std.OrientedCmp.eq_swap
  trans a ha b hb c hc hab hbc := by
    rw [h a ha b hb] at hab
    rw [h b hb c hc] at hbc
    rw [h a ha c hc]
    exact Ordering.isLE_iff_ne_gt.mp (Std.TransCmp.isLE_trans
      (Ordering.isLE_iff_ne_gt.mpr hab) (Ordering.isLE_iff_ne_gt.mpr hbc))

/-- What stands for elements of `S` is ordered if it is compared as they are. -/
theorem of_related {other : β → β → Ordering} {T : Set β} {R : α → β → Prop}
    (h : TotalPreorderOn cmp S) (hT : ∀ x ∈ T, ∃ a ∈ S, R a x)
    (hcmp : ∀ {a b x y}, R a x → R b y → cmp a b = other x y) : TotalPreorderOn other T where
  swap x hx y hy := by
    obtain ⟨a, ha, hax⟩ := hT x hx
    obtain ⟨b, hb, hby⟩ := hT y hy
    rw [← hcmp hax hby, ← hcmp hby hax]
    exact h.swap a ha b hb
  trans x hx y hy z hz hxy hyz := by
    obtain ⟨a, ha, hax⟩ := hT x hx
    obtain ⟨b, hb, hby⟩ := hT y hy
    obtain ⟨c, hc, hcz⟩ := hT z hz
    rw [← hcmp hax hby] at hxy
    rw [← hcmp hby hcz] at hyz
    rw [← hcmp hax hcz]
    exact h.trans a ha b hb c hc hxy hyz

/-- Nothing is told apart. -/
theorem of_eq (S : Set α) : TotalPreorderOn (fun _ _ => .eq) S where
  swap _ _ _ _ := rfl
  trans _ _ _ _ _ _ _ hbc := hbc

theorem reverse (h : TotalPreorderOn cmp S) : TotalPreorderOn (fun a b => (cmp a b).swap) S where
  swap a ha b hb := by rw [h.swap a ha b hb]
  trans a ha b hb c hc hab hbc := by
    rw [← h.swap a ha b hb] at hab
    rw [← h.swap b hb c hc] at hbc
    rw [← h.swap a ha c hc]
    exact h.trans c hc b hb a ha hbc hab

/-- The first comparison decides, and the second where it does not. -/
theorem andThen (h : TotalPreorderOn first S) (h' : TotalPreorderOn second S) :
    TotalPreorderOn (fun a b => (first a b).then (second a b)) S where
  swap a ha b hb := by rw [h.swap a ha b hb, h'.swap a ha b hb, Ordering.swap_then]
  trans a ha b hb c hc hab hbc := by
    rw [ne_eq, Ordering.then_eq_gt, not_or, not_and] at hab hbc ⊢
    refine ⟨h.trans a ha b hb c hc hab.1 hbc.1, fun hac => ?_⟩
    -- Where the first comparison does not tell `a` from `c`, it tells neither from `b`.
    have heq : first a b = .eq := by
      cases hfirst : first a b with
      | lt => rw [h.lt_of_lt_of_le ha hb hc hfirst hbc.1] at hac; cases hac
      | eq => rfl
      | gt => exact absurd hfirst hab.1
    have heq' : first b c = .eq := by
      cases hfirst : first b c with
      | lt => rw [h.lt_of_le_of_lt ha hb hc hab.1 hfirst] at hac; cases hac
      | eq => rfl
      | gt => exact absurd hfirst hbc.1
    exact h'.trans a ha b hb c hc (hab.2 heq) (hbc.2 heq')

end TotalPreorderOn

/-! ## Ranks -/

/-- How many elements of a list are before an element. -/
def rankAmong (cmp : α → α → Ordering) (xs : List α) (a : α) : Nat :=
  xs.countP fun x => cmp x a == .lt

theorem countP_lt_countP {p q : α → Bool} {xs : List α} {a : α} (h : ∀ x ∈ xs, p x = true → q x = true)
    (ha : a ∈ xs) (hp : p a = false) (hq : q a = true) : xs.countP p < xs.countP q := by
  induction xs with
  | nil => cases ha
  | cons x xs ih =>
    have hrest : ∀ y ∈ xs, p y = true → q y = true := fun y hy => h y (by simp [hy])
    rcases List.mem_cons.mp ha with rfl | ha
    · rw [List.countP_cons_of_neg (by simp [hp]), List.countP_cons_of_pos hq]
      exact Nat.lt_succ_of_le (List.countP_mono_left hrest)
    · have hlt := ih hrest ha
      rw [List.countP_cons, List.countP_cons]
      have hx := h x (by simp)
      split <;> split <;> grind

namespace TotalPreorderOn

variable {cmp : α → α → Ordering} {xs : List α} {a b : α}

theorem rankAmong_lt (h : TotalPreorderOn cmp {x | x ∈ xs}) (ha : a ∈ xs) (hb : b ∈ xs)
    (hab : cmp a b = .lt) : rankAmong cmp xs a < rankAmong cmp xs b := by
  refine countP_lt_countP (fun x hx hxa => ?_) ha (by simp [h.refl ha]) (by simpa using hab)
  rw [beq_iff_eq] at hxa ⊢
  exact h.lt_of_lt_of_le hx ha hb hxa (by simp [hab])

theorem rankAmong_eq (h : TotalPreorderOn cmp {x | x ∈ xs}) (ha : a ∈ xs) (hb : b ∈ xs)
    (hab : cmp a b = .eq) : rankAmong cmp xs a = rankAmong cmp xs b := by
  refine List.countP_congr fun x hx => ?_
  have hba := h.eq_symm ha hb hab
  rw [beq_iff_eq, beq_iff_eq]
  constructor
  · exact fun hxa => h.lt_of_lt_of_le hx ha hb hxa (by simp [hab])
  · exact fun hxb => h.lt_of_lt_of_le hx hb ha hxb (by simp [hba])

/-- The elements of a list are compared as their ranks. -/
theorem cmp_eq_rankAmong (h : TotalPreorderOn cmp {x | x ∈ xs}) (ha : a ∈ xs) (hb : b ∈ xs) :
    cmp a b = compare (rankAmong cmp xs a) (rankAmong cmp xs b) := by
  cases hab : cmp a b with
  | lt => exact (Nat.compare_eq_lt.mpr (h.rankAmong_lt ha hb hab)).symm
  | eq => exact (Nat.compare_eq_eq.mpr (h.rankAmong_eq ha hb hab)).symm
  | gt =>
    have hba : cmp b a = .lt := by rw [h.swap a ha b hb, hab]; rfl
    exact (Nat.compare_eq_gt.mpr (h.rankAmong_lt hb ha hba)).symm

end TotalPreorderOn

end DocUpdate
