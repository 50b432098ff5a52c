import Mathlib.Algebra.Order.Floor.Semifield
import Mathlib.Data.Rat.Floor
import DocUpdate.Proofs.Number.Digits
import DocUpdate.Proofs.Value.Integer
import DocUpdate.Value.Stepwise

/-!
# Integer parts of doubles

What is left of a double when the bits of its fraction are cleared is its integer part, and this is
less than one away. So comparing an integer of 64 bits with a double by range, integer part and
fraction is exact.
-/

namespace DocUpdate.Double

variable {x : Double}

/-! ## The integer part -/

theorem wholeMagnitude_eq_floor (x : Double) : x.wholeMagnitude = ⌊x.magnitude⌋₊ := by
  have hscale := zpow_mul_pow_toNat (two_ne_zero (α := ℚ)) x.exponent
  have hd : ((pow2 (-x.exponent).toNat : Nat) : ℚ) ≠ 0 := by exact_mod_cast (pow2_pos _).ne'
  have hquotient : x.magnitude =
      (x.significand * pow2 x.exponent.toNat : Nat) / (pow2 (-x.exponent).toNat : Nat) := by
    rw [eq_div_iff hd, magnitude_eq, mul_assoc]
    push_cast [pow2, Nat.pow_eq]
    rw [hscale]
  rw [hquotient, Nat.floor_div_eq_div, wholeMagnitude]

theorem wholeMagnitude_le (x : Double) : x.wholeMagnitude ≤ x.magnitude := by
  rw [wholeMagnitude_eq_floor]
  exact Nat.floor_le x.magnitude_nonneg

theorem lt_wholeMagnitude_add_one (x : Double) : x.magnitude < x.wholeMagnitude + 1 := by
  rw [wholeMagnitude_eq_floor]
  exact Nat.lt_floor_add_one _

theorem cast_wholePart (x : Double) :
    (x.wholePart : ℚ) = withSign x.negative x.wholeMagnitude := by
  rw [wholePart, withSign]
  split <;> push_cast <;> rfl

/-- The integer part is less than one away. -/
theorem abs_sub_wholePart_lt (x : Double) :
    |withSign x.negative x.magnitude - x.wholePart| < 1 := by
  have hle := x.wholeMagnitude_le
  have hlt := x.lt_wholeMagnitude_add_one
  rw [cast_wholePart, withSign, withSign, abs_lt]
  split <;> constructor <;> linarith

/-- The integer part is not further from zero, so it stays between bounds. -/
theorem wholePart_between {limit : Nat} (hlimit : 0 < limit)
    (hlow : -(limit : ℚ) ≤ withSign x.negative x.magnitude)
    (hhigh : withSign x.negative x.magnitude < limit) :
    -(limit : Int) ≤ x.wholePart ∧ x.wholePart < limit := by
  have hle := x.wholeMagnitude_le
  unfold withSign at hlow hhigh
  unfold wholePart
  split at hlow
  · rename_i hnegative
    have hbound : (x.wholeMagnitude : ℚ) ≤ limit := by linarith
    rw [Nat.cast_le] at hbound
    rw [if_pos hnegative]
    omega
  · rename_i hpositive
    rw [if_neg hpositive] at hhigh
    have hbound : (x.wholeMagnitude : ℚ) < limit := hle.trans_lt hhigh
    rw [Nat.cast_lt] at hbound
    rw [if_neg hpositive]
    omega

/-! ## Clearing the fraction -/

section Clear

variable (hexponent : x.exponent < 0) (hone : pow2 (-x.exponent).toNat ≤ x.significand)

include hone in
/-- A double that is one or more has no more than 52 bits of fraction. -/
theorem places_le : (-x.exponent).toNat ≤ 52 := by
  have hlt : pow2 (-x.exponent).toNat < pow2 53 := hone.trans_lt x.significand_lt
  exact Nat.lt_succ_iff.mp ((Nat.pow_lt_pow_iff_right (by decide)).mp hlt)

include hexponent hone in
theorem bits_trunc : x.trunc.bits.toNat =
    pow2 (-x.exponent).toNat * (x.bits.toNat / pow2 (-x.exponent).toNat) := by
  rw [trunc, if_neg hexponent.not_ge, if_neg hone.not_gt, Nat.mul_div_self_eq_mod_sub_self]
  exact UInt64.toNat_ofNat_of_lt ((Nat.sub_le _ _).trans_lt x.bits.toNat_lt)

include hexponent hone in
/-- The sign and the exponent stand above the bits that are cleared. -/
theorem bits_trunc_div : x.trunc.bits.toNat / pow2 52 = x.bits.toNat / pow2 52 := by
  have hsplit : pow2 52 = pow2 (-x.exponent).toNat * pow2 (52 - (-x.exponent).toNat) := by
    rw [← pow2_add, Nat.add_sub_cancel' (places_le hone)]
  rw [bits_trunc hexponent hone, hsplit, Nat.mul_div_mul_left _ _ (pow2_pos _),
    Nat.div_div_eq_div_mul]

include hexponent hone in
theorem exponentField_trunc : x.trunc.exponentField = x.exponentField := by
  rw [exponentField, bits_trunc_div hexponent hone, exponentField]

include hexponent hone in
theorem negative_trunc_of_one_le : x.trunc.negative = x.negative := by
  have hsign (n : Nat) : pow2 63 ≤ n ↔ pow2 11 ≤ n / pow2 52 := by
    rw [Nat.le_div_iff_mul_le (pow2_pos 52), ← pow2_add]
  rw [negative, negative, decide_eq_decide, hsign, hsign, bits_trunc_div hexponent hone]

include hexponent hone in
/-- The bits of the fraction are the last ones of the significand. -/
theorem significand_trunc : x.trunc.significand =
    pow2 (-x.exponent).toNat * (x.significand / pow2 (-x.exponent).toNat) := by
  have hplaces := places_le hone
  have hfield : x.exponentField ≠ 0 := by
    unfold exponent at hplaces
    omega
  have hsplit : pow2 52 = pow2 (-x.exponent).toNat * pow2 (52 - (-x.exponent).toNat) := by
    rw [← pow2_add, Nat.add_sub_cancel' hplaces]
  rw [significand, exponentField_trunc hexponent hone, if_neg hfield, significand, if_neg hfield,
    fractionField, fractionField, bits_trunc hexponent hone, hsplit, Nat.mul_mod_mul_left,
    Nat.mul_add_div (pow2_pos _), Nat.mod_mul_right_div_self, Nat.mul_add]

include hexponent hone in
theorem magnitude_trunc_of_one_le : x.trunc.magnitude = x.wholeMagnitude := by
  have hone' : (2 : ℚ) ^ x.exponent * (pow2 (-x.exponent).toNat : Nat) = 1 := by
    have hscale := zpow_mul_pow_toNat (two_ne_zero (α := ℚ)) x.exponent
    rw [Int.toNat_of_nonpos hexponent.le, pow_zero] at hscale
    simpa [pow2] using hscale
  have hsame : x.trunc.exponent = x.exponent := by
    rw [exponent, exponentField_trunc hexponent hone, exponent]
  rw [magnitude_eq, significand_trunc hexponent hone, hsame, wholeMagnitude,
    Int.toNat_of_nonpos hexponent.le, pow2_zero, Nat.mul_one, Nat.cast_mul, mul_comm, ← mul_assoc,
    hone', one_mul]

end Clear

/-- What is left without the fraction is the integer part, with the sign of the double. -/
theorem trunc_eq_whole (h : x.isFinite = true) :
    x.trunc.isFinite = true ∧ x.trunc.negative = x.negative ∧
      x.trunc.magnitude = x.wholeMagnitude := by
  by_cases hexponent : 0 ≤ x.exponent
  · have hwhole : x.magnitude = x.wholeMagnitude := by
      rw [wholeMagnitude, magnitude_eq, Int.toNat_of_nonpos (Int.neg_nonpos_of_nonneg hexponent),
        pow2_zero, Nat.div_one]
      obtain ⟨e, he⟩ := Int.eq_ofNat_of_zero_le hexponent
      simp [he, pow2]
    rw [trunc, if_pos hexponent]
    exact ⟨h, rfl, hwhole⟩
  have hneg : x.exponent < 0 := not_le.mp hexponent
  by_cases hone : x.significand < pow2 (-x.exponent).toNat
  · have hzero : (zero x.negative).isFinite = true ∧ (zero x.negative).negative = x.negative ∧
        (zero x.negative).significand = 0 := by
      cases x.negative <;> decide
    rw [trunc, if_neg hexponent, if_pos hone, magnitude_eq, hzero.2.2, wholeMagnitude,
      Int.toNat_of_nonpos hneg.le, pow2_zero, Nat.mul_one, Nat.div_eq_of_lt hone]
    simp [hzero.1, hzero.2.1]
  · have hone := not_lt.mp hone
    refine ⟨?_, negative_trunc_of_one_le hneg hone, magnitude_trunc_of_one_le hneg hone⟩
    rwa [isFinite, exponentField_trunc hneg hone]

theorem size_trunc (h : x.isFinite = true) : x.trunc.size = .finite x.wholePart := by
  obtain ⟨hfinite, hsign, hmagnitude⟩ := trunc_eq_whole h
  rw [size_eq_magnitude hfinite, hsign, hmagnitude, cast_wholePart]

theorem wholePart_trunc (h : x.isFinite = true) : x.trunc.wholePart = x.wholePart := by
  obtain ⟨-, hsign, hmagnitude⟩ := trunc_eq_whole h
  rw [wholePart, hsign, wholeMagnitude_eq_floor, hmagnitude, Nat.floor_natCast, wholePart]

/-! ## Order -/

theorem isNaN_iff_size (x : Double) : x.isNaN = true ↔ x.size = .nan := by
  unfold size
  by_cases hfinite : x.isFinite = true
  · have hnan : x.isNaN = false := by simp_all [isFinite, isNaN]
    simp [hfinite, hnan]
  · rw [if_neg hfinite]
    split <;> simp [*]

theorem toLong_of_fits {y : Double} (hfinite : y.isFinite = true) (hfits : FitsLong y.wholePart) :
    y.toLong.toInt = y.wholePart := by
  have hnan : ¬ y.isNaN = true := by simp_all [isFinite, isNaN]
  have hinfinite : ¬ y.isInfinite = true := by simp_all [isFinite, isInfinite]
  have hlong : int64Of? y.wholePart = some (Int64.ofInt y.wholePart) := if_pos hfits
  rw [toLong, if_neg hnan, if_neg hinfinite, hlong, Option.getD_some]
  exact int64Of?_eq_some_iff.mp hlong

theorem size_longLimit : longLimit.size = .finite (2 ^ 63) := by
  have hsigned : longLimit.signed = 2 ^ 52 := rfl
  have hexponent : longLimit.exponent = 11 := rfl
  rw [size_of_finite rfl, hsigned, hexponent]
  norm_num

theorem size_neg_longLimit : longLimit.neg.size = .finite (-2 ^ 63) := by
  have hsigned : longLimit.neg.signed = -2 ^ 52 := rfl
  have hexponent : longLimit.neg.exponent = 11 := rfl
  rw [size_of_finite rfl, hsigned, hexponent]
  norm_num

/-- The integer part decides, and where it is equal the fraction does. -/
theorem compare_then_fraction {n w : Int} {q : ℚ} (h : |q - w| < 1) :
    (compare n w).then (compare (w : ℚ) q) = compare (n : ℚ) q := by
  obtain ⟨hlow, hhigh⟩ := abs_lt.mp h
  rcases lt_trichotomy n w with hn | rfl | hn
  · have hcast : (n : ℚ) + 1 ≤ w := by exact_mod_cast hn
    rw [compare_lt_iff_lt.mpr hn, compare_lt_iff_lt.mpr (by linarith : (n : ℚ) < q)]
    rfl
  · rw [compare_eq_iff_eq.mpr rfl]
    rfl
  · have hcast : (w : ℚ) + 1 ≤ n := by exact_mod_cast hn
    rw [compare_gt_iff_gt.mpr hn, compare_gt_iff_gt.mpr (by linarith : q < (n : ℚ))]
    rfl

/-- Within the range of 64-bit integers nothing is cut off. -/
theorem cmpLong_of_range {n : Int} {q : ℚ} (hfinite : x.isFinite = true) (hsize : x.size = .finite q)
    (hlow : -2 ^ 63 ≤ q) (hhigh : q < 2 ^ 63) :
    (compare n x.trunc.toLong.toInt).then (x.trunc.cmp x) = compare (n : ℚ) q := by
  rw [size_eq_magnitude hfinite, Size.finite.injEq] at hsize
  have hlimit : ((pow2 63 : Nat) : ℚ) = 2 ^ 63 := by norm_num [pow2]
  have hrange := x.wholePart_between (pow2_pos 63) (by rwa [hsize, hlimit]) (by rwa [hsize, hlimit])
  have hpart := wholePart_trunc hfinite
  have hlong := toLong_of_fits (trunc_eq_whole hfinite).1
    (hpart ▸ ⟨hrange.1, Int.lt_add_one_iff.mp hrange.2⟩)
  rw [hlong, hpart, cmp_eq_size, size_trunc hfinite, size_eq_magnitude hfinite, hsize, Size.cmp]
  exact compare_then_fraction (hsize ▸ x.abs_sub_wholePart_lt)

/-- Comparing a 64-bit integer with a double in steps is exact. -/
theorem cmpLong_eq_cmpInt {n : Int} (h : FitsLong n) (x : Double) :
    cmpLong n x = cmpInt n x := by
  have hlow : -2 ^ 63 ≤ (n : ℚ) := by exact_mod_cast h.1
  have hhigh : (n : ℚ) < 2 ^ 63 := by exact_mod_cast Int.lt_add_one_iff.mpr h.2
  rw [cmpInt_eq_size, cmpLong, cmp_eq_size, cmp_eq_size, size_longLimit, size_neg_longLimit]
  by_cases hnan : x.isNaN = true
  · rw [if_pos hnan, x.isNaN_iff_size.mp hnan]
    rfl
  rw [if_neg hnan]
  by_cases hfinite : x.isFinite = true
  · obtain ⟨q, hq⟩ : ∃ q, x.size = .finite q := ⟨_, size_of_finite hfinite⟩
    simp only [hq, Size.cmp, ne_eq, compare_lt_iff_lt, not_lt]
    split
    case isTrue habove => exact (compare_lt_iff_lt.mpr (hhigh.trans_le habove)).symm
    case isFalse hbelow =>
      split
      case isTrue hunder => exact (compare_gt_iff_gt.mpr (hunder.trans_le hlow)).symm
      case isFalse hover =>
        exact cmpLong_of_range hfinite hq (not_lt.mp hover) (not_le.mp hbelow)
  · have hsize : x.size = .infinity x.negative := by rw [size, if_neg hfinite, if_neg hnan]
    rw [hsize]
    cases x.negative <;> rfl

/-! ## Reading integers -/

theorem isFinite_of_size {q : ℚ} (h : x.size = .finite q) : x.isFinite = true := by
  rw [← x.bracket_eq_two_iff, h]
  rfl

theorem natAbs_wholePart (x : Double) : x.wholePart.natAbs = x.wholeMagnitude := by
  rw [wholePart]
  split
  · rw [Int.natAbs_neg, Int.natAbs_natCast]
  · rw [Int.natAbs_natCast]

/-- The integer part of an integer is this integer. -/
theorem wholePart_of_size {n : Int} (h : x.size = .finite n) : x.wholePart = n := by
  have hnear := x.abs_sub_wholePart_lt
  rw [size_eq_magnitude (isFinite_of_size h), Size.finite.injEq] at h
  rw [h] at hnear
  have hnear' : |n - x.wholePart| < 1 := by exact_mod_cast hnear
  rw [Int.abs_lt_one_iff] at hnear'
  omega

theorem bits_abs (x : Double) : x.abs.bits.toNat = x.bits.toNat % pow2 63 :=
  UInt64.toNat_ofNat_of_lt ((Nat.mod_lt _ (pow2_pos 63)).trans (by decide))

/-- Only the sign is cleared. -/
theorem size_abs (h : x.isFinite = true) : x.abs.size = .finite x.magnitude := by
  have hexponent : x.abs.exponentField = x.exponentField := by
    have hsplit : pow2 63 = pow2 52 * pow2 11 := (pow2_add 52 11)
    rw [exponentField, bits_abs, hsplit, Nat.mod_mul_right_div_self, Nat.mod_mod, exponentField]
  have hfraction : x.abs.fractionField = x.fractionField := by
    rw [fractionField, bits_abs, Nat.mod_mod_of_dvd _ (by decide), fractionField]
  have hnegative : x.abs.negative = false := by
    rw [negative, bits_abs, decide_eq_false_iff_not, not_le]
    exact Nat.mod_lt _ (pow2_pos 63)
  have hfinite : x.abs.isFinite = true := by rwa [isFinite, hexponent]
  have hmagnitude : x.abs.magnitude = x.magnitude := by
    rw [magnitude_eq, magnitude_eq, significand, exponent, hexponent, hfraction, significand,
      exponent]
  rw [size_eq_magnitude hfinite, hnegative, hmagnitude]
  rfl

theorem size_integerLimit : integerLimit.size = .finite (pow2 53 : Nat) := by
  have hsigned : integerLimit.signed = 2 ^ 52 := rfl
  have hexponent : integerLimit.exponent = 1 := rfl
  rw [size_of_finite rfl, hsigned, hexponent]
  norm_num [pow2]

/-- Whether a double is below the limit shows in its integer part. -/
theorem abs_cmp_integerLimit (h : x.isFinite = true) :
    x.abs.cmp integerLimit = .lt ↔ x.wholePart.natAbs < pow2 53 := by
  rw [cmp_eq_size, size_abs h, size_integerLimit, Size.cmp, compare_lt_iff_lt, natAbs_wholePart,
    wholeMagnitude_eq_floor, Nat.floor_lt x.magnitude_nonneg]

theorem fitsLong_of_natAbs_lt {n : Int} (h : n.natAbs < pow2 53) : FitsLong n := by
  have hmax : (pow2 53 : Int) ≤ Int64.maxValue.toInt := by decide
  have hmin : Int64.minValue.toInt ≤ -(pow2 53 : Int) := by decide
  unfold FitsLong
  omega

/-- In steps exactly the integers below the limit are read. -/
theorem asLong?_eq_some_iff {n : Int64} :
    x.asLong? = some n ↔ x.size = .finite n.toInt ∧ n.toInt.natAbs < pow2 53 := by
  by_cases hfinite : x.isFinite = true
  · have htrunc : x.trunc.cmp x = .eq ↔ x.size = .finite x.wholePart := by
      rw [cmp_eq_size, size_trunc hfinite, eq_comm (a := x.size)]
      exact Std.LawfulEqCmp.compare_eq_iff_eq
    simp only [asLong?, hfinite, true_and, htrunc, abs_cmp_integerLimit hfinite]
    constructor
    · intro h
      split at h
      case isTrue hwhole =>
        cases h
        rw [toLong_of_fits hfinite (fitsLong_of_natAbs_lt hwhole.2)]
        exact hwhole
      case isFalse => cases h
    · rintro ⟨hsize, hsmall⟩
      have hwhole := wholePart_of_size hsize
      rw [hwhole, if_pos ⟨hsize, hsmall⟩, Option.some.injEq, ← Int64.toInt_inj,
        toLong_of_fits hfinite (hwhole ▸ fitsLong_of_natAbs_lt hsmall), hwhole]
  · have hnone : x.asLong? = none := if_neg fun h => hfinite h.1
    rw [hnone]
    exact iff_of_false nofun fun h => hfinite (isFinite_of_size h.1)

end DocUpdate.Double
