import Mathlib.Data.Rat.Floor
import Mathlib.Algebra.Order.Field.Rat
import Mathlib.Tactic.Linarith
import Mathlib.Tactic.FieldSimp
import Mathlib.Tactic.Ring
import DocUpdate.Number.Rounding

/-!
# Rounding to the nearest multiple

A half goes to the even neighbour. Rounding to a fine unit and then to a coarse one is the same
as rounding once, unless the first step puts a number on the middle between two multiples of the
coarse unit that it did not stand on.
-/

namespace DocUpdate

/-! ## The nearest integer -/

/-- The integer nearest to a rational. A half goes to the even neighbour. -/
def nearestInt (q : ℚ) : ℤ :=
  if q - ⌊q⌋ < 1 / 2 then ⌊q⌋ else if 1 / 2 < q - ⌊q⌋ then ⌊q⌋ + 1 else ⌊q⌋ + ⌊q⌋ % 2

/-- An integer at most a half away, and even if it is exactly a half away. -/
def IsNearest (q : ℚ) (n : ℤ) : Prop := |q - n| ≤ 1 / 2 ∧ (|q - n| = 1 / 2 → Even n)

section

variable {p q : ℚ} {m n k : ℤ}

theorem isNearest_iff :
    IsNearest q n ↔ n - 1 / 2 ≤ q ∧ q ≤ n + 1 / 2 ∧ (q = n + 1 / 2 ∨ q = n - 1 / 2 → Even n) := by
  have hlow : -(1 / 2) ≤ q - n ↔ n - 1 / 2 ≤ q := by
    rw [le_sub_iff_add_le, neg_add_eq_sub]
  have hhigh : q - n ≤ 1 / 2 ↔ q ≤ n + 1 / 2 := sub_le_iff_le_add'
  have hright : q - n = 1 / 2 ↔ q = n + 1 / 2 := sub_eq_iff_eq_add'
  have hleft : q - n = -(1 / 2) ↔ q = n - 1 / 2 := by
    rw [sub_eq_iff_eq_add', ← sub_eq_add_neg]
  rw [IsNearest, abs_le, abs_eq (by norm_num), hlow, hhigh, hright, hleft, and_assoc]

theorem isNearest_of_lt (h : |q - n| < 1 / 2) : IsNearest q n :=
  ⟨h.le, fun heq => absurd heq h.ne⟩

theorem isNearest_intCast (n : ℤ) : IsNearest n n := isNearest_of_lt (by norm_num)

theorem IsNearest.neg (h : IsNearest q n) : IsNearest (-q) (-n) := by
  have habs : |-q - (-n : ℤ)| = |q - n| := by
    rw [Int.cast_neg, neg_sub_neg, abs_sub_comm]
  exact ⟨habs.trans_le h.1, fun heq => (h.2 (habs.symm.trans heq)).neg⟩

theorem IsNearest.eq (hm : IsNearest q m) (hn : IsNearest q n) : m = n := by
  have not_lt_of : ∀ {i j : ℤ}, IsNearest q i → IsNearest q j → ¬ i < j := by
    intro i j hi hj hij
    obtain ⟨-, hupper, heven⟩ := isNearest_iff.mp hi
    obtain ⟨hlower, -, heven'⟩ := isNearest_iff.mp hj
    have hstep : (i : ℚ) + 1 ≤ j := by exact_mod_cast hij
    -- Both are a half away, so they are neighbours and one of them is odd.
    have hnext : (j : ℚ) = (i + 1 : ℤ) := by push_cast; linarith
    have hodd := (heven (.inl (by linarith))).add_one
    rw [← Int.cast_inj.mp hnext] at hodd
    exact Int.not_even_iff_odd.mpr hodd (heven' (.inr (by linarith)))
  exact le_antisymm (not_lt.mp (not_lt_of hn hm)) (not_lt.mp (not_lt_of hm hn))

theorem isNearest_nearestInt (q : ℚ) : IsNearest q (nearestInt q) := by
  have hfloor := Int.floor_le q
  have hnext := Int.lt_floor_add_one q
  unfold nearestInt
  split
  · rw [IsNearest, abs_of_nonneg (by linarith)]
    exact ⟨by linarith, fun h => by linarith⟩
  · split
    · apply isNearest_of_lt
      push_cast
      rw [abs_lt]
      constructor <;> linarith
    · have hhalf : q - ⌊q⌋ = 1 / 2 := by linarith
      rcases Int.even_or_odd ⌊q⌋ with heven | hodd
      · rw [Int.even_iff.mp heven, add_zero]
        exact ⟨by rw [hhalf]; norm_num, fun _ => heven⟩
      · rw [Int.odd_iff.mp hodd]
        refine ⟨?_, fun _ => hodd.add_one⟩
        push_cast
        rw [← sub_sub, hhalf]
        norm_num

theorem nearestInt_eq_iff : nearestInt q = n ↔ IsNearest q n :=
  ⟨fun h => h ▸ isNearest_nearestInt q, (isNearest_nearestInt q).eq⟩

theorem IsNearest.le (hpq : p ≤ q) (hm : IsNearest p m) (hn : IsNearest q n) : m ≤ n := by
  by_contra hlt
  have hstep : (n : ℚ) + 1 ≤ m := by exact_mod_cast not_le.mp hlt
  obtain ⟨hlower, -, -⟩ := isNearest_iff.mp hm
  obtain ⟨-, hupper, -⟩ := isNearest_iff.mp hn
  -- Both are a half away from the same number.
  have heq : p = q := by linarith
  subst heq
  exact hlt (hm.eq hn).le

theorem isNearest_roundHalfEven (n : ℕ) {d : ℕ} (hd : 0 < d) :
    IsNearest ((n : ℚ) / d) (roundHalfEven n d : ℕ) := by
  have hd' : (0 : ℚ) < d := Nat.cast_pos.mpr hd
  have hquotient : (n : ℚ) / d = (n / d : ℕ) + (n % d : ℕ) / d := by
    rw [div_eq_iff hd'.ne', add_mul, div_mul_cancel₀ _ hd'.ne']
    exact_mod_cast (Nat.div_add_mod' n d).symm
  have hremainder : ((n % d : ℕ) : ℚ) / d < 1 := by
    rw [div_lt_one hd']
    exact_mod_cast Nat.mod_lt n hd
  have hnonneg : (0 : ℚ) ≤ ((n % d : ℕ) : ℚ) / d := by positivity
  have hlt : 2 * (n % d) < d ↔ ((n % d : ℕ) : ℚ) / d < 1 / 2 := by
    rw [div_lt_div_iff₀ hd' two_pos, one_mul, mul_comm]
    exact_mod_cast Iff.rfl
  have hgt : d < 2 * (n % d) ↔ 1 / 2 < ((n % d : ℕ) : ℚ) / d := by
    rw [div_lt_div_iff₀ two_pos hd', one_mul, mul_comm]
    exact_mod_cast Iff.rfl
  have hfloor : ⌊(n : ℚ) / d⌋ = (n / d : ℕ) := by
    rw [Int.floor_eq_iff, hquotient, Int.cast_natCast]
    constructor <;> linarith
  have hrest : (n : ℚ) / d - ((n / d : ℕ) : ℤ) = (n % d : ℕ) / d := by
    rw [hquotient, Int.cast_natCast, add_sub_cancel_left]
  rw [← nearestInt_eq_iff, nearestInt, hfloor, hrest, roundHalfEven]
  simp only [hlt, hgt]
  split
  · rfl
  · split <;> push_cast <;> rfl

/-! ## Two roundings of one number -/

theorem nearestInt_add_half_of_even (hk : Even k) : nearestInt (k + 1 / 2) = k :=
  nearestInt_eq_iff.mpr (isNearest_iff.mpr ⟨by linarith, le_rfl, fun _ => hk⟩)

theorem nearestInt_add_half_of_odd (hk : Odd k) : nearestInt (k + 1 / 2) = k + 1 := by
  refine nearestInt_eq_iff.mpr (isNearest_iff.mpr ⟨?_, ?_, fun _ => hk.add_one⟩) <;>
    push_cast <;> linarith

/-- A number that stays on its side of every middle keeps its nearest integer, unless it ends on a
middle and was on the side of the odd integer. -/
theorem isNearest_of_isNearest (hle : ∀ k : ℤ, p ≤ k + 1 / 2 → q ≤ k + 1 / 2)
    (hge : ∀ k : ℤ, k + 1 / 2 ≤ p → k + 1 / 2 ≤ q)
    (hmiddle : ¬ ∃ k : ℤ, q = k + 1 / 2 ∧ (Even k ∧ k + 1 / 2 < p ∨ Odd k ∧ p < k + 1 / 2))
    (h : IsNearest q n) : IsNearest p n := by
  obtain ⟨hlow, hhigh, htie⟩ := isNearest_iff.mp h
  have hprev : ((n - 1 : ℤ) : ℚ) + 1 / 2 = n - 1 / 2 := by push_cast; ring
  -- Both middles around `n` are passed by `q` at most where `n` is even.
  have hupper : p ≤ n + 1 / 2 := by
    by_contra hlt
    have hq : q = n + 1 / 2 := le_antisymm hhigh (hge n (not_le.mp hlt).le)
    exact hmiddle ⟨n, hq, .inl ⟨htie (.inl hq), not_le.mp hlt⟩⟩
  have hlower : n - 1 / 2 ≤ p := by
    by_contra hlt
    have hq : q = n - 1 / 2 :=
      le_antisymm ((hle (n - 1) (hprev ▸ (not_le.mp hlt).le)).trans_eq hprev) hlow
    exact hmiddle ⟨n - 1, hq.trans hprev.symm,
      .inr ⟨(htie (.inr hq)).sub_odd odd_one, hprev ▸ not_le.mp hlt⟩⟩
  refine isNearest_iff.mpr ⟨hlower, hupper, ?_⟩
  rintro (hp | hp)
  · exact htie (.inl (le_antisymm hhigh (hge n hp.ge)))
  · exact htie (.inr (le_antisymm ((hle (n - 1) (hp.trans hprev.symm).le).trans_eq hprev) hlow))

theorem nearestInt_eq_nearestInt_iff (hle : ∀ k : ℤ, p ≤ k + 1 / 2 → q ≤ k + 1 / 2)
    (hge : ∀ k : ℤ, k + 1 / 2 ≤ p → k + 1 / 2 ≤ q) :
    nearestInt q = nearestInt p ↔
      ¬ ∃ k : ℤ, q = k + 1 / 2 ∧ (Even k ∧ k + 1 / 2 < p ∨ Odd k ∧ p < k + 1 / 2) := by
  constructor
  · rintro heq ⟨k, rfl, ⟨heven, hp⟩ | ⟨hodd, hp⟩⟩
    · rw [nearestInt_add_half_of_even heven] at heq
      obtain ⟨-, hupper, -⟩ := isNearest_iff.mp (nearestInt_eq_iff.mp heq.symm)
      exact hupper.not_gt hp
    · rw [nearestInt_add_half_of_odd hodd] at heq
      obtain ⟨hlower, -, -⟩ := isNearest_iff.mp (nearestInt_eq_iff.mp heq.symm)
      push_cast at hlower
      linarith
  · intro hmiddle
    have hnearest := isNearest_of_isNearest hle hge hmiddle (isNearest_nearestInt q)
    exact (nearestInt_eq_iff.mpr hnearest).symm

end

/-! ## Multiples of a unit -/

/-- The multiple of `u` nearest to a rational. A half goes to the even multiple. -/
def roundTo (u x : ℚ) : ℚ := nearestInt (x / u) * u

/-- Rounding to the fine unit `v` puts a number on the middle between two multiples of the coarse
unit `u`, from the side of the odd one. -/
def Displaced (u v x : ℚ) : Prop :=
  ∃ k : ℤ, roundTo v x = (k + 1 / 2) * u ∧
    (Even k ∧ (k + 1 / 2) * u < x ∨ Odd k ∧ x < (k + 1 / 2) * u)

section

variable {u v x y : ℚ}

theorem roundTo_zero (u : ℚ) : roundTo u 0 = 0 := by
  have hzero : nearestInt 0 = 0 := by
    rw [nearestInt_eq_iff]
    exact_mod_cast isNearest_intCast 0
  rw [roundTo, zero_div, hzero, Int.cast_zero, zero_mul]

theorem roundTo_mul (hu : 0 < u) (n : ℤ) : roundTo u (n * u) = n * u := by
  rw [roundTo, mul_div_cancel_right₀ _ hu.ne', nearestInt_eq_iff.mpr (isNearest_intCast n)]

theorem abs_sub_roundTo_le (hu : 0 < u) (x : ℚ) : |x - roundTo u x| ≤ u / 2 := by
  have hscaled : x - roundTo u x = (x / u - nearestInt (x / u)) * u := by
    rw [roundTo, sub_mul, div_mul_cancel₀ _ hu.ne']
  rw [hscaled, abs_mul, abs_of_pos hu]
  calc |x / u - nearestInt (x / u)| * u ≤ 1 / 2 * u :=
        mul_le_mul_of_nonneg_right (isNearest_nearestInt _).1 hu.le
    _ = u / 2 := by ring

theorem roundTo_le_roundTo (hu : 0 < u) (h : x ≤ y) : roundTo u x ≤ roundTo u y := by
  have hscaled : x / u ≤ y / u := div_le_div_of_nonneg_right h hu.le
  have hnearest := (isNearest_nearestInt (x / u)).le hscaled (isNearest_nearestInt (y / u))
  exact mul_le_mul_of_nonneg_right (Int.cast_le.mpr hnearest) hu.le

theorem roundTo_eq_roundTo_iff (hu : 0 < u) :
    roundTo u x = roundTo u y ↔ nearestInt (x / u) = nearestInt (y / u) := by
  unfold roundTo
  rw [mul_left_inj' hu.ne', Int.cast_inj]

/-- Rounding first to a unit that divides half of the coarse one is rounding once, unless it
displaces the number. -/
theorem roundTo_roundTo_iff (hv : 0 < v) {w : ℕ} (hw : 0 < w) (hu : u = 2 * w * v) :
    roundTo u (roundTo v x) = roundTo u x ↔ ¬ Displaced u v x := by
  have hu' : 0 < u := by rw [hu]; positivity
  -- Every middle between two coarse multiples is a fine one.
  have hmiddle : ∀ k : ℤ, ((k : ℚ) + 1 / 2) * u = ((2 * k + 1) * w : ℤ) * v := by
    intro k
    rw [hu]
    push_cast
    ring
  have hle : ∀ k : ℤ, x / u ≤ k + 1 / 2 → roundTo v x / u ≤ k + 1 / 2 := by
    intro k h
    rw [div_le_iff₀ hu', hmiddle] at h ⊢
    exact (roundTo_le_roundTo hv h).trans_eq (roundTo_mul hv _)
  have hge : ∀ k : ℤ, k + 1 / 2 ≤ x / u → k + 1 / 2 ≤ roundTo v x / u := by
    intro k h
    rw [le_div_iff₀ hu', hmiddle] at h ⊢
    exact (roundTo_mul hv _).symm.trans_le (roundTo_le_roundTo hv h)
  rw [roundTo_eq_roundTo_iff hu', nearestInt_eq_nearestInt_iff hle hge, Displaced, not_iff_not]
  refine exists_congr fun k => ?_
  rw [div_eq_iff hu'.ne', lt_div_iff₀ hu', div_lt_iff₀ hu']

end

end DocUpdate
