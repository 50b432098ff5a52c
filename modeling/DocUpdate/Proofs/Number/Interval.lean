import Mathlib.Tactic.Linarith
import Mathlib.Tactic.Positivity
import Mathlib.Tactic.Ring
import DocUpdate.Proofs.Number.Size

/-!
# The numbers that round to a double

They form an interval around it. The intervals of two doubles stand in the order of the doubles,
and no number is in both.
-/

namespace DocUpdate

theorem pow2_52 : pow2 52 = 4503599627370496 := rfl

namespace Double

/-! ## The fields of a finite double -/

theorem significand_lt (x : Double) : x.significand < 2 * pow2 52 := by
  have hfraction : x.fractionField < pow2 52 := Nat.mod_lt _ (pow2_pos 52)
  unfold significand
  split <;> omega

/-- Above the least exponent there is a hidden bit. -/
theorem le_significand {x : Double} (h : -1074 < x.exponent) : pow2 52 ≤ x.significand := by
  unfold exponent at h
  unfold significand
  split <;> omega

theorem exponent_ge (x : Double) : -1074 ≤ x.exponent := by
  unfold exponent
  omega

theorem narrowBelow_iff (x : Double) :
    x.narrowBelow = true ↔ x.significand = pow2 52 ∧ -1074 < x.exponent := by
  have hfraction : x.fractionField < pow2 52 := Nat.mod_lt _ (pow2_pos 52)
  simp only [narrowBelow, significand, exponent, Bool.and_eq_true, beq_iff_eq, decide_eq_true_eq]
  split <;> omega

/-! ## The numbers that round to a double -/

/-- A quarter of the last place. -/
def quarter (x : Double) : ℚ := 2 ^ (x.exponent - 2)

/-- The size of a finite double without its sign. -/
def magnitude (x : Double) : ℚ := (4 * x.significand : Nat) * x.quarter

/-- The lower end of the numbers that round to the double, in quarters. -/
def lowQuarters (x : Double) : Nat := 4 * x.significand - (if x.narrowBelow then 1 else 2)

def highQuarters (x : Double) : Nat := 4 * x.significand + 2

/-- A positive number rounds to the magnitude of a double. The ends of the interval do if the
significand is even. -/
def Rounds (x : Double) (q : ℚ) : Prop :=
  if x.significand % 2 = 0 then x.lowQuarters * x.quarter ≤ q ∧ q ≤ x.highQuarters * x.quarter
  else x.lowQuarters * x.quarter < q ∧ q < x.highQuarters * x.quarter

variable {x y : Double} {p q : ℚ}

theorem quarter_pos (x : Double) : 0 < x.quarter := by
  unfold quarter
  positivity

theorem magnitude_eq (x : Double) : x.magnitude = x.significand * 2 ^ x.exponent := by
  have hsplit : (2 : ℚ) ^ x.exponent = 2 ^ (x.exponent - 2) * 2 ^ (2 : Int) := by
    rw [← zpow_add₀ two_ne_zero, Int.sub_add_cancel]
  rw [magnitude, quarter, hsplit]
  push_cast
  ring

theorem Rounds.low_le (h : x.Rounds q) : x.lowQuarters * x.quarter ≤ q := by
  unfold Rounds at h
  split at h
  · exact h.1
  · exact h.1.le

theorem Rounds.le_high (h : x.Rounds q) : q ≤ x.highQuarters * x.quarter := by
  unfold Rounds at h
  split at h
  · exact h.2
  · exact h.2.le

/-- What rounds to a double is at most half of the last place away. -/
theorem Rounds.le_add (h : x.Rounds q) : q ≤ x.magnitude + 2 * x.quarter := by
  refine h.le_high.trans_eq ?_
  rw [magnitude, highQuarters]
  push_cast
  ring

theorem Rounds.sub_le (h : x.Rounds q) : x.magnitude - 2 * x.quarter ≤ q := by
  have hlow : ((4 * x.significand : Nat) : ℚ) ≤ (x.lowQuarters + 2 : Nat) := by
    rw [Nat.cast_le, lowQuarters]
    split <;> omega
  refine le_trans ?_ h.low_le
  rw [sub_le_iff_le_add, magnitude, ← add_mul]
  exact mul_le_mul_of_nonneg_right (by exact_mod_cast hlow) x.quarter_pos.le

theorem rounds_of_lt (hlow : x.lowQuarters * x.quarter < q)
    (hhigh : q < x.highQuarters * x.quarter) : x.Rounds q := by
  unfold Rounds
  split
  · exact ⟨hlow.le, hhigh.le⟩
  · exact ⟨hlow, hhigh⟩

theorem rounds_magnitude (x : Double) : x.Rounds x.magnitude := by
  have hhigh : 4 * x.significand < x.highQuarters := by
    unfold highQuarters
    omega
  have hlow : x.lowQuarters ≤ 4 * x.significand := Nat.sub_le _ _
  unfold Rounds magnitude
  rw [mul_le_mul_iff_left₀ x.quarter_pos, mul_le_mul_iff_left₀ x.quarter_pos,
    mul_lt_mul_iff_left₀ x.quarter_pos, mul_lt_mul_iff_left₀ x.quarter_pos, Nat.cast_le, Nat.cast_le,
    Nat.cast_lt, Nat.cast_lt]
  split
  · exact ⟨hlow, hhigh.le⟩
  · refine ⟨?_, hhigh⟩
    unfold lowQuarters
    split <;> omega

theorem Rounds.pos (hx : 0 < x.significand) (h : x.Rounds q) : 0 < q := by
  have hlow : 0 < x.lowQuarters := by
    unfold lowQuarters
    split <;> omega
  have hpos : (0 : ℚ) < x.lowQuarters * x.quarter :=
    mul_pos (Nat.cast_pos.mpr hlow) x.quarter_pos
  exact hpos.trans_le h.low_le

/-- Above the least exponent the interval begins little below the least significand. -/
theorem lowQuarters_ge (h : -1074 < x.exponent) : 4 * pow2 52 - 1 ≤ x.lowQuarters := by
  have hhidden := le_significand h
  unfold lowQuarters
  by_cases hnarrow : x.narrowBelow = true
  · rw [if_pos hnarrow]
    omega
  · have hwide : x.significand ≠ pow2 52 := fun hleast =>
      hnarrow (x.narrowBelow_iff.mpr ⟨hleast, h⟩)
    rw [if_neg hnarrow]
    omega

/-! ## Order of intervals -/

theorem two_mul_quarter_le (h : x.exponent < y.exponent) : 2 * x.quarter ≤ y.quarter := by
  have hstep : 2 * x.quarter = 2 ^ (x.exponent - 1) := by
    rw [quarter, ← zpow_one_add₀ two_ne_zero]
    congr 1
    omega
  rw [hstep, quarter]
  exact zpow_le_zpow_right₀ one_le_two (by omega)

/-- A larger exponent comes with a hidden bit, and decides. -/
theorem magnitude_lt_of_exponent_lt (h : x.exponent < y.exponent) : x.magnitude < y.magnitude := by
  have hhidden := le_significand (Int.lt_of_le_of_lt x.exponent_ge h)
  have hsignificand : 4 * x.significand < 4 * y.significand * 2 := by
    have := x.significand_lt
    omega
  calc x.magnitude < (4 * y.significand * 2 : Nat) * x.quarter :=
        mul_lt_mul_of_pos_right (Nat.cast_lt.mpr hsignificand) x.quarter_pos
    _ = (4 * y.significand : Nat) * (2 * x.quarter) := by rw [Nat.cast_mul]; push_cast; ring
    _ ≤ y.magnitude := mul_le_mul_of_nonneg_left (two_mul_quarter_le h) (Nat.cast_nonneg _)

theorem exponent_le_of_magnitude_le (h : x.magnitude ≤ y.magnitude) : x.exponent ≤ y.exponent :=
  Int.not_lt.mp fun hlt => (magnitude_lt_of_exponent_lt hlt).not_ge h

/-- The interval of the smaller double ends where that of the larger begins, or before. At one
exponent a quarter is the same for both, and else it is at least twice as long. -/
theorem exists_scale (h : x.magnitude < y.magnitude) : ∃ k : Nat,
    k * x.quarter ≤ y.quarter ∧ x.highQuarters ≤ y.lowQuarters * k ∧
    (x.significand % 2 = 0 → y.significand % 2 = 0 → x.highQuarters < y.lowQuarters * k) := by
  have hx := x.significand_lt
  have hnarrow := y.narrowBelow_iff
  rcases (exponent_le_of_magnitude_le h.le).eq_or_lt with heq | hlt
  · have hquarter : x.quarter = y.quarter := by rw [quarter, heq, quarter]
    have hsignificand : x.significand < y.significand := by
      rw [magnitude, magnitude, hquarter, mul_lt_mul_iff_left₀ y.quarter_pos, Nat.cast_lt] at h
      omega
    -- The larger one is no power of two, as it would be the least of its exponent.
    have hwide : ¬ y.narrowBelow = true := by
      rw [hnarrow]
      rintro ⟨hleast, he⟩
      have := le_significand (heq ▸ he)
      omega
    refine ⟨1, by rw [Nat.cast_one, one_mul, hquarter], ?_⟩
    unfold highQuarters lowQuarters
    rw [if_neg hwide]
    omega
  · have hlow := lowQuarters_ge (Int.lt_of_le_of_lt x.exponent_ge hlt)
    refine ⟨2, two_mul_quarter_le hlt, ?_⟩
    unfold highQuarters
    omega

/-- Numbers that round to the smaller double are below those that round to the larger. -/
theorem Rounds.lt (h : x.magnitude < y.magnitude) (hp : x.Rounds p) (hq : y.Rounds q) : p < q := by
  obtain ⟨k, hscale, hle, hlt⟩ := exists_scale h
  have hquarters : (y.lowQuarters * k : Nat) * x.quarter ≤ y.lowQuarters * y.quarter := by
    rw [Nat.cast_mul, mul_assoc]
    exact mul_le_mul_of_nonneg_left hscale (Nat.cast_nonneg _)
  have hends : x.highQuarters * x.quarter ≤ (y.lowQuarters * k : Nat) * x.quarter :=
    mul_le_mul_of_nonneg_right (Nat.cast_le.mpr hle) x.quarter_pos.le
  by_cases hx : x.significand % 2 = 0
  · by_cases hy : y.significand % 2 = 0
    · have hends : x.highQuarters * x.quarter < (y.lowQuarters * k : Nat) * x.quarter :=
        mul_lt_mul_of_pos_right (Nat.cast_lt.mpr (hlt hx hy)) x.quarter_pos
      exact (hp.le_high.trans_lt (hends.trans_le hquarters)).trans_le hq.low_le
    · rw [Rounds, if_neg hy] at hq
      exact (hp.le_high.trans (hends.trans hquarters)).trans_lt hq.1
  · rw [Rounds, if_neg hx] at hp
    exact (hp.2.trans_le (hends.trans hquarters)).trans_le hq.low_le

end Double

end DocUpdate
