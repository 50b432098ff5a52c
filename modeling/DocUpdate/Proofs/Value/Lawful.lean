import Mathlib.Order.Defs.LinearOrder

/-!
# Laws of a comparison, element by element

The laws of a total order are stated for one element at a time, so that they can be carried
from the parts of a value to the value. At every element together they make the comparison a
lawful one.
-/

namespace DocUpdate

universe u v

variable {α : Type u} {β : Type v}

/-- The laws of a total order for comparisons that start at `a`. -/
structure LawfulAt (cmp : α → α → Ordering) (a : α) : Prop where
  eq_iff (b : α) : cmp a b = .eq ↔ a = b
  swap (b : α) : cmp b a = (cmp a b).swap
  trans {b c : α} : cmp a b = .lt → cmp b c ≠ .gt → cmp a c = .lt

theorem compare_ne_gt_iff {m n : Nat} : compare m n ≠ .gt ↔ m ≤ n := by
  rw [ne_eq, Nat.compare_eq_gt]
  omega

namespace LawfulAt

/-! ## Comparisons at hand -/

theorem of_compare [Ord α] [Std.TransOrd α] [Std.LawfulEqOrd α] (a : α) :
    LawfulAt compare a where
  eq_iff _ := Std.LawfulEqCmp.compare_eq_iff_eq
  swap _ := Std.OrientedCmp.eq_swap
  trans hab hbc := by
    refine Std.TransCmp.lt_of_lt_of_isLE hab ?_
    rwa [Ordering.isLE_iff_ne_gt]

/-- There is nothing to compare. -/
theorem of_unit (a : Unit) : LawfulAt (fun _ _ => .eq) a where
  eq_iff _ := by simp
  swap _ := rfl
  trans hab := by cases hab

variable {cmp : α → α → Ordering} {other : β → β → Ordering}

/-- What is told apart by another comparison. -/
theorem on {f : β → α} (hf : Function.Injective f) {b : β} (h : LawfulAt cmp (f b)) :
    LawfulAt (fun x y => cmp (f x) (f y)) b where
  eq_iff y := (h.eq_iff (f y)).trans hf.eq_iff
  swap y := h.swap (f y)
  trans hxy hyz := h.trans hxy hyz

/-- One comparison decides, and a second where the first does not. -/
theorem prod {x : α × β} (h : LawfulAt cmp x.1) (h' : LawfulAt other x.2) :
    LawfulAt (fun x y : α × β => (cmp x.1 y.1).then (other x.2 y.2)) x where
  eq_iff y := by
    rw [Ordering.then_eq_eq, h.eq_iff, h'.eq_iff, Prod.ext_iff]
  swap y := by
    rw [h.swap, h'.swap, Ordering.swap_then]
  trans {y z} hxy hyz := by
    rw [Ordering.then_eq_lt] at hxy ⊢
    rw [ne_eq, Ordering.then_eq_gt, not_or, not_and] at hyz
    rcases hxy with hlt | ⟨heq, hlt⟩
    · exact .inl (h.trans hlt hyz.1)
    · rw [h.eq_iff] at heq
      rw [← heq] at hyz
      -- The first comparison of `x` with `z` cannot be `gt`, and the second counts if it is `eq`.
      cases hxz : cmp x.1 z.1 with
      | lt => exact .inl rfl
      | eq => exact .inr ⟨rfl, h'.trans hlt (hyz.2 hxz)⟩
      | gt => exact absurd hxz hyz.1

/-- Different ranks decide, and what has one rank is made by `f` from what is compared there. -/
theorem within {rank : α → Nat} {f : β → α} {b : β}
    (hne : ∀ x y, rank x ≠ rank y → cmp x y = compare (rank x) (rank y))
    (hsame : ∀ x, rank x = rank (f b) → ∃ c, x = f c)
    (hmake : ∀ x y, cmp (f x) (f y) = other x y) (hinj : Function.Injective f)
    (h : LawfulAt other b) : LawfulAt cmp (f b) where
  eq_iff y := by
    by_cases hy : rank y = rank (f b)
    · obtain ⟨c, rfl⟩ := hsame y hy
      rw [hmake, h.eq_iff, hinj.eq_iff]
    · rw [hne _ _ (Ne.symm hy), Nat.compare_eq_eq]
      exact ⟨fun heq => absurd heq.symm hy, fun heq => congrArg rank heq⟩
  swap y := by
    by_cases hy : rank y = rank (f b)
    · obtain ⟨c, rfl⟩ := hsame y hy
      rw [hmake, hmake, h.swap]
    · rw [hne _ _ hy, hne _ _ (Ne.symm hy)]
      exact Std.OrientedCmp.eq_swap
  trans {y z} hby hyz := by
    by_cases hy : rank y = rank (f b)
    · obtain ⟨c, rfl⟩ := hsame y hy
      by_cases hz : rank z = rank (f b)
      · obtain ⟨d, rfl⟩ := hsame z hz
        rw [hmake] at hby hyz ⊢
        exact h.trans hby hyz
      · -- `z` has a higher rank than `y`, so it has one than `f b`.
        rw [hne _ _ (by omega), compare_ne_gt_iff] at hyz
        rw [hne _ _ (Ne.symm hz), Nat.compare_eq_lt]
        omega
    · rw [hne _ _ (Ne.symm hy), Nat.compare_eq_lt] at hby
      have hle : rank y ≤ rank z := by
        by_cases hyz' : rank y = rank z
        · omega
        · rwa [hne _ _ hyz', compare_ne_gt_iff] at hyz
      rw [hne _ _ (by omega), Nat.compare_eq_lt]
      omega

end LawfulAt

/-! ## Lists -/

/-- Lists are compared item by item. Of two that agree so far the shorter is first. -/
structure Lexicographic (cmp : α → α → Ordering) (lex : List α → List α → Ordering) : Prop where
  nil_nil : lex [] [] = .eq
  nil_cons (y : α) (ys : List α) : lex [] (y :: ys) = .lt
  cons_nil (x : α) (xs : List α) : lex (x :: xs) [] = .gt
  cons_cons (x : α) (xs : List α) (y : α) (ys : List α) :
    lex (x :: xs) (y :: ys) = (cmp x y).then (lex xs ys)

/-- The empty list is before the others. -/
def consRank : List α → Nat
  | [] => 0
  | _ :: _ => 1

theorem Lexicographic.of_consRank_ne {cmp : α → α → Ordering} {lex : List α → List α → Ordering}
    (hlex : Lexicographic cmp lex) (xs ys : List α) (h : consRank xs ≠ consRank ys) :
    lex xs ys = compare (consRank xs) (consRank ys) := by
  cases xs <;> cases ys
  · exact absurd rfl h
  · exact hlex.nil_cons _ _
  · exact hlex.cons_nil _ _
  · exact absurd rfl h

/-- Lists swap if their items do. -/
theorem Lexicographic.swap {cmp : α → α → Ordering} {lex : List α → List α → Ordering}
    (hlex : Lexicographic cmp lex) {xs ys : List α}
    (h : ∀ x ∈ xs, ∀ y ∈ ys, cmp y x = (cmp x y).swap) : lex ys xs = (lex xs ys).swap := by
  induction xs generalizing ys with
  | nil =>
    cases ys with
    | nil => rw [hlex.nil_nil]; rfl
    | cons y ys => rw [hlex.nil_cons, hlex.cons_nil]; rfl
  | cons x xs ih =>
    cases ys with
    | nil => rw [hlex.nil_cons, hlex.cons_nil]; rfl
    | cons y ys =>
      have hrest : lex ys xs = (lex xs ys).swap :=
        ih fun x hx y hy => h x (by simp [hx]) y (by simp [hy])
      rw [hlex.cons_cons, hlex.cons_cons, Ordering.swap_then, h x (by simp) y (by simp), hrest]

/-- Lists are compared as their images are if their items are. -/
theorem Lexicographic.map {cmp : α → α → Ordering} {lex : List α → List α → Ordering}
    (hlex : Lexicographic cmp lex) {cmp' : β → β → Ordering} {lex' : List β → List β → Ordering}
    (hlex' : Lexicographic cmp' lex') {f : α → β} {xs ys : List α}
    (h : ∀ x ∈ xs, ∀ y ∈ ys, cmp x y = cmp' (f x) (f y)) :
    lex xs ys = lex' (xs.map f) (ys.map f) := by
  induction xs generalizing ys with
  | nil =>
    cases ys with
    | nil => exact hlex.nil_nil.trans hlex'.nil_nil.symm
    | cons y ys => exact (hlex.nil_cons _ _).trans (hlex'.nil_cons _ _).symm
  | cons x xs ih =>
    cases ys with
    | nil => exact (hlex.cons_nil _ _).trans (hlex'.cons_nil _ _).symm
    | cons y ys =>
      have hrest : lex xs ys = lex' (xs.map f) (ys.map f) :=
        ih fun x hx y hy => h x (by simp [hx]) y (by simp [hy])
      rw [List.map_cons, List.map_cons, hlex.cons_cons, hlex'.cons_cons,
        h x (by simp) y (by simp), hrest]

theorem LawfulAt.list {cmp : α → α → Ordering} {lex : List α → List α → Ordering}
    (hlex : Lexicographic cmp lex) {xs : List α} (h : ∀ x ∈ xs, LawfulAt cmp x) :
    LawfulAt lex xs := by
  induction xs with
  | nil =>
    refine within (f := fun _ : Unit => []) hlex.of_consRank_ne ?_ ?_ ?_ (of_unit ())
    · rintro (_ | ⟨y, ys⟩) hy
      · exact ⟨(), rfl⟩
      · cases hy
    · exact fun _ _ => hlex.nil_nil
    · exact fun _ _ _ => rfl
  | cons x xs ih =>
    have hpair : LawfulAt _ (x, xs) := prod (h x (by simp)) (ih fun y hy => h y (by simp [hy]))
    refine within (f := fun p : α × List α => p.1 :: p.2) hlex.of_consRank_ne ?_ ?_ ?_ hpair
    · rintro (_ | ⟨y, ys⟩) hy
      · cases hy
      · exact ⟨(y, ys), rfl⟩
    · exact fun _ _ => hlex.cons_cons _ _ _ _
    · rintro ⟨y, ys⟩ ⟨z, zs⟩ heq
      cases heq
      rfl

/-! ## Comparisons that are lawful everywhere -/

theorem transCmp_of_lawfulAt {cmp : α → α → Ordering} (h : ∀ a, LawfulAt cmp a) :
    Std.TransCmp cmp where
  eq_swap {a b} := (h b).swap a
  isLE_trans {a b c} hab hbc := by
    rw [Ordering.isLE_iff_ne_gt] at hab hbc ⊢
    cases hcmp : cmp a b with
    | lt => simp [(h a).trans hcmp hbc]
    | eq => rwa [((h a).eq_iff b).mp hcmp]
    | gt => exact absurd hcmp hab

theorem lawfulEqCmp_of_lawfulAt {cmp : α → α → Ordering} (h : ∀ a, LawfulAt cmp a) :
    Std.LawfulEqCmp cmp where
  compare_self {a} := ((h a).eq_iff a).mpr rfl
  eq_of_compare {a b} hab := ((h a).eq_iff b).mp hab

end DocUpdate
