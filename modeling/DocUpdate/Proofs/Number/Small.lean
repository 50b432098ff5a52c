import Mathlib.Tactic.FieldSimp
import DocUpdate.Proofs.Number.Order

/-!
# Small integers

An integer below the largest significand is on the same side of the digits of a double as of the
double itself, so it is never between them.
-/

namespace DocUpdate

namespace Double

variable {x : Double} {n : Nat} {q : ℚ}

theorem half_le_quarter (h : 0 < x.exponent) : (2 : ℚ) ^ (-1 : Int) ≤ x.quarter :=
  zpow_le_zpow_right₀ one_le_two (by omega)

theorem exponent_nonpos (h : x.magnitude < (2 * pow2 52 : Nat)) : x.exponent ≤ 0 := by
  by_contra hpos
  have hquarter := half_le_quarter (Int.not_le.mp hpos)
  have hhidden : 4 * pow2 52 ≤ 4 * x.significand := by
    have := le_significand (x := x) (by omega)
    omega
  have hge : ((2 * pow2 52 : Nat) : ℚ) ≤ x.magnitude := by
    calc ((2 * pow2 52 : Nat) : ℚ) = (4 * pow2 52 : Nat) * 2 ^ (-1 : Int) := by
          rw [zpow_neg_one]
          push_cast
          ring
      _ ≤ x.magnitude :=
        mul_le_mul (Nat.cast_le.mpr hhidden) hquarter (by positivity) (Nat.cast_nonneg _)
  exact absurd h hge.not_gt

/-- A natural number in quarters of the last place of a double whose last place is at most one. -/
theorem cast_eq_quarters (he : x.exponent ≤ 0) (n : Nat) :
    (n : ℚ) = (4 * (n * pow2 (-x.exponent).toNat) : Nat) * x.quarter := by
  have hone : (4 : ℚ) * 2 ^ (-x.exponent).toNat * x.quarter = 1 := by
    rw [quarter, ← zpow_natCast, Int.toNat_of_nonneg (by omega), zpow_sub₀ two_ne_zero, zpow_neg]
    field_simp
    norm_num
  calc (n : ℚ) = n * (4 * 2 ^ (-x.exponent).toNat * x.quarter) := by rw [hone, mul_one]
    _ = (4 * (n * pow2 (-x.exponent).toNat) : Nat) * x.quarter := by
      simp only [pow2, Nat.pow_eq]
      push_cast
      ring

theorem quarter_le (he : x.exponent ≤ 0) : x.quarter ≤ 1 / 4 := by
  have hle : x.quarter ≤ 2 ^ (-2 : Int) := zpow_le_zpow_right₀ one_le_two (by omega)
  norm_num at hle ⊢
  exact hle

theorem Rounds.lt_natCast (h : x.magnitude < n) (hn : n < 2 * pow2 52) (hq : x.Rounds q) :
    q < n := by
  have he : x.exponent ≤ 0 := exponent_nonpos (h.trans (Nat.cast_lt.mpr hn))
  rw [cast_eq_quarters he n] at h ⊢
  rw [magnitude, mul_lt_mul_iff_left₀ x.quarter_pos, Nat.cast_lt] at h
  refine hq.le_high.trans_lt ?_
  rw [mul_lt_mul_iff_left₀ x.quarter_pos, Nat.cast_lt, highQuarters]
  omega

theorem Rounds.natCast_lt (h : n < x.magnitude) (hn : n < 2 * pow2 52) (hq : x.Rounds q) :
    n < q := by
  refine lt_of_lt_of_le ?_ hq.low_le
  by_cases he : x.exponent ≤ 0
  · rw [cast_eq_quarters he n] at h ⊢
    rw [magnitude, mul_lt_mul_iff_left₀ x.quarter_pos, Nat.cast_lt] at h
    rw [mul_lt_mul_iff_left₀ x.quarter_pos, Nat.cast_lt, lowQuarters]
    split <;> omega
  · have hquarter := half_le_quarter (Int.not_le.mp he)
    have hlow : 2 * n < x.lowQuarters := by
      have := lowQuarters_ge (x := x) (by omega)
      omega
    calc (n : ℚ) = (2 * n : Nat) * 2 ^ (-1 : Int) := by rw [zpow_neg_one]; push_cast; ring
      _ < x.lowQuarters * 2 ^ (-1 : Int) :=
        mul_lt_mul_of_pos_right (Nat.cast_lt.mpr hlow) (by positivity)
      _ ≤ x.lowQuarters * x.quarter := mul_le_mul_of_nonneg_left hquarter (Nat.cast_nonneg _)

/-- The only natural number that rounds to a small natural number is that number. -/
theorem Rounds.eq_natCast {m : Nat} (h : x.magnitude = n) (hn : n < 2 * pow2 52)
    (hm : x.Rounds m) : m = n := by
  have he : x.exponent ≤ 0 := exponent_nonpos (h ▸ Nat.cast_lt.mpr hn)
  have hquarter := quarter_le he
  have hpos := x.quarter_pos
  have hlow := hm.sub_le
  have hhigh := hm.le_add
  rw [h] at hlow hhigh
  have hlt : (m : ℚ) < (n + 1 : Nat) := by push_cast; linarith
  have hgt : (n : ℚ) < (m + 1 : Nat) := by push_cast; linarith
  rw [Nat.cast_lt] at hlt hgt
  omega

/-! ## Digits of small integers -/

/-- A double whose size is a small natural number divides evenly. -/
theorem significand_eq (he : x.exponent ≤ 0) (h : x.magnitude = n) :
    x.significand = n * pow2 (-x.exponent).toNat := by
  rw [cast_eq_quarters he n, magnitude, mul_left_inj' x.quarter_pos.ne', Nat.cast_inj] at h
  omega

theorem decimalPoint_eq (he : x.exponent ≤ 0) (h : x.magnitude = n) (hn : 0 < n) :
    decimalPoint x.significand x.exponent = digitCount n := by
  have hd : 0 < pow2 (-x.exponent).toNat := pow2_pos _
  have hle : pow2 (-x.exponent).toNat ≤ n * pow2 (-x.exponent).toNat := Nat.le_mul_of_pos_left _ hn
  rw [decimalPoint, Int.toNat_of_nonpos he, pow2_zero, Nat.mul_one, significand_eq he h, if_pos hle,
    Nat.mul_div_cancel _ hd]

/-- A small natural number is found among the natural numbers, as all of its digits. -/
theorem onGrid?_zero (tie : Tie) (h : x.magnitude = n) :
    ∃ t, x.onGrid? tie 0 = some t := by
  have hbelow := x.below_le 0
  have habove := x.lt_below_succ 0
  rw [h, zpow_zero, mul_one, Nat.cast_le] at hbelow
  rw [h, zpow_zero, mul_one, Nat.cast_lt] at habove
  have heq : x.below 0 = n := by omega
  refine exists_onGrid?_of_rounds tie (.inl ?_)
  rw [heq, zpow_zero, mul_one, ← h]
  exact rounds_magnitude x

/-- The digits of a small integer are the integer. -/
theorem digits_eq_natCast (h : x.magnitude = n) (hn : n < 2 * pow2 52) : x.digits = n := by
  have he : x.exponent ≤ 0 := exponent_nonpos (h ▸ Nat.cast_lt.mpr hn)
  by_cases hzero : n = 0
  · subst hzero
    have hx : x.significand = 0 := by rw [significand_eq he h, Nat.zero_mul]
    rw [digits, if_pos hx, Nat.cast_zero]
  have hpos : 0 < n := Nat.pos_of_ne_zero hzero
  have hx : 0 < x.significand := magnitude_pos_iff.mp (h ▸ Nat.cast_pos.mpr hpos)
  have hcount : digitCount n ≤ 16 := digitCount_le_of_lt (by decide) (hn.trans (by decide))
  have hcount' := digitCount_pos n
  have hpoint := decimalPoint_eq he h hpos
  have hplace : x.place (digitCount n - 1) = 0 := by
    rw [place, hpoint]
    omega
  obtain ⟨t, ht⟩ := onGrid?_zero .up h
  obtain ⟨k, hk, u, hu, hvalue⟩ := exists_shortest (by omega) (hplace ▸ ht)
  -- The places that are tried up to there are not behind the point.
  obtain ⟨s, hs⟩ : ∃ s : Nat, x.place k = s := Int.eq_ofNat_of_zero_le (by rw [place, hpoint]; omega)
  have hrounds := rounds_of_onGrid? hu
  rw [digits, if_neg hx.ne', hvalue, hs, zpow_natCast]
  rw [hs, zpow_natCast] at hrounds
  have hcast : (u * 10 ^ s : ℚ) = (u * 10 ^ s : Nat) := by push_cast; rfl
  rw [hcast] at hrounds ⊢
  rw [hrounds.eq_natCast h hn]

/-! ## Order of digits and small integers -/

theorem digits_lt_natCast (h : x.magnitude < n) (hn : n < 2 * pow2 52) : x.digits < n := by
  by_cases hx : x.significand = 0
  · rw [digits, if_pos hx]
    exact x.magnitude_nonneg.trans_lt h
  · exact (rounds_digits (Nat.pos_of_ne_zero hx)).lt_natCast h hn

theorem natCast_lt_digits (h : n < x.magnitude) (hn : n < 2 * pow2 52) : n < x.digits := by
  have hx : 0 < x.significand := magnitude_pos_iff.mp ((Nat.cast_nonneg n).trans_lt h)
  exact (rounds_digits hx).natCast_lt h hn

theorem digits_lt_natCast_iff (hn : n < 2 * pow2 52) : x.digits < n ↔ x.magnitude < n := by
  rcases lt_trichotomy x.magnitude n with h | h | h
  · exact iff_of_true (digits_lt_natCast h hn) h
  · exact iff_of_false (digits_eq_natCast h hn).not_lt h.not_lt
  · exact iff_of_false (natCast_lt_digits h hn).asymm h.asymm

theorem natCast_lt_digits_iff (hn : n < 2 * pow2 52) : n < x.digits ↔ n < x.magnitude := by
  rcases lt_trichotomy x.magnitude n with h | h | h
  · exact iff_of_false (digits_lt_natCast h hn).asymm h.asymm
  · exact iff_of_false (digits_eq_natCast h hn).not_gt h.not_gt
  · exact iff_of_true (natCast_lt_digits h hn) h

theorem withSign_natAbs (n : Int) : withSign (n < 0) n.natAbs = n := by
  unfold withSign
  split
  · rw [decide_eq_true_eq] at *
    rw [← Int.cast_natCast, Int.ofNat_natAbs_of_nonpos (by omega), Int.cast_neg, neg_neg]
  · rw [decide_eq_true_eq] at *
    rw [← Int.cast_natCast, Int.natAbs_of_nonneg (by omega)]

/-- A small integer is on the same side of the digits of a double as of the double. -/
theorem cmp_size_eq_digits {n : Int} (hn : n.natAbs < 2 * pow2 52) (x : Double) :
    (Size.finite n).cmp x.size = (Size.finite n).cmp (Wide.ofDouble x).size := by
  by_cases h : x.isFinite = true
  · rw [size_eq_magnitude h, size_ofDouble h, ← withSign_natAbs n]
    have hsize : (0 : ℚ) ≤ n.natAbs := Nat.cast_nonneg _
    refine compare_eq_of_lt_iff ?_ ?_
    · exact withSign_lt_iff _ _ hsize x.magnitude_nonneg hsize x.digits_nonneg Iff.rfl
        digits_pos_iff.symm (natCast_lt_digits_iff hn).symm (digits_lt_natCast_iff hn).symm
    · exact withSign_lt_iff _ _ x.magnitude_nonneg hsize x.digits_nonneg hsize
        digits_pos_iff.symm Iff.rfl (digits_lt_natCast_iff hn).symm (natCast_lt_digits_iff hn).symm
  · rw [size_ofDouble_of_not_finite h]

end Double

namespace Number

theorem eq_of_cmp_eq {s t u : Size} (h : u.cmp s = u.cmp t) (hs : s ≤ u) (ht : u ≤ t) : s = t := by
  have hus : u ≤ s := by
    rw [← Size.cmp_ne_gt_iff, h]
    exact ht
  have heq : s = u := hs.antisymm hus
  subst heq
  rw [Size.cmp_self] at h
  exact Std.LawfulEqCmp.eq_of_compare h.symm

/-- An integer below the largest significand is not between a double and its digits. -/
theorem not_circular_of_lt {n : Int} (hn : n.natAbs < 2 * pow2 52) (x : Double) (d : Decimal128) :
    ¬ Circular n x d := by
  have hcmp := Double.cmp_size_eq_digits hn x
  rintro ⟨hne, ⟨hxn, hnd, hdx⟩ | ⟨hxd, hdn, hnx⟩⟩
  · exact hne (eq_of_cmp_eq hcmp hxn (hnd.trans hdx))
  · exact hne (eq_of_cmp_eq hcmp.symm (hxd.trans hdn) hnx).symm

/-- Numbers are ordered if all integers among them are small. -/
theorem noneCircular_of_lt {S : Set Number} (h : ∀ n, int n ∈ S → n.natAbs < 2 * pow2 52) :
    NoneCircular S := fun n x d hn _ _ => not_circular_of_lt (h n hn) x d

end Number

end DocUpdate
