import Mathlib.Data.Int.Log
import Mathlib.Tactic.NormNum
import DocUpdate.Proofs.Number.Nearest
import DocUpdate.Proofs.Number.Size

/-!
# What storing makes of a number

A number is rounded to 34 digits and then to the least exponent. What is left has a decimal of
the same size, unless it is larger than every decimal.
-/

namespace DocUpdate

/-! ## Powers of ten -/

theorem roundHalfEven_le {n d k : ℕ} (hd : 0 < d) (h : n ≤ k * d) : roundHalfEven n d ≤ k := by
  have hd' : (0 : ℚ) < d := Nat.cast_pos.mpr hd
  have hle : (n : ℚ) / d ≤ (k : ℤ) := by
    rw [div_le_iff₀ hd']
    exact_mod_cast h
  exact_mod_cast (isNearest_roundHalfEven n hd).le hle (isNearest_intCast k)

theorem cast_pow10 (n : ℕ) : (pow10 n : ℚ) = 10 ^ (n : ℤ) := by
  rw [zpow_natCast, pow10, Nat.pow_eq]
  push_cast
  rfl

theorem ten_zpow_add (e f : ℤ) : (10 : ℚ) ^ (e + f) = 10 ^ e * 10 ^ f := zpow_add₀ (by norm_num) e f

theorem ten_zpow_pos (e : ℤ) : (0 : ℚ) < 10 ^ e := zpow_pos (by norm_num) e

theorem ten_zpow_le {e f : ℤ} (h : e ≤ f) : (10 : ℚ) ^ e ≤ 10 ^ f :=
  zpow_le_zpow_right₀ (by norm_num) h

theorem mul_ten_zpow (m : ℤ) {e f : ℤ} (h : f ≤ e) :
    (m : ℚ) * 10 ^ e = (m * pow10 (e - f).toNat : ℤ) * 10 ^ f := by
  have he : ((e - f).toNat : ℤ) + f = e := by omega
  rw [Int.cast_mul, Int.cast_natCast, cast_pow10, mul_assoc, ← ten_zpow_add, he]

theorem roundTo_ten_zpow (m : ℤ) {e f : ℤ} (h : f ≤ e) :
    roundTo (10 ^ f) (m * 10 ^ e) = m * 10 ^ e := by
  rw [mul_ten_zpow m h]
  exact roundTo_mul (ten_zpow_pos f) _

namespace Decimal128

/-! ## The numbers that a decimal can have -/

/-- The exponent of the last of the 34 digits of a rational. -/
def lastPlace (x : ℚ) : ℤ := Int.log 10 |x| + 1 - precision

/-- A rational rounded to 34 digits. -/
def roundDigits (x : ℚ) : ℚ := roundTo (10 ^ lastPlace x) x

/-- The size of the least positive decimal, `10 ^ (-6176)`. -/
def least : ℚ := 10 ^ minExponent

/-- The size from which on a decimal can have 34 digits, `10 ^ (-6143)`. -/
def leastNormal : ℚ := 10 ^ (minExponent + precision - 1)

/-- The size of the largest finite decimal, `(10 ^ 34 - 1) * 10 ^ 6111`. -/
def largest : ℚ := (10 ^ precision - 1) * 10 ^ maxExponent

theorem least_pos : 0 < least := ten_zpow_pos _

theorem lastPlace_scaled {m : ℤ} (hm : m ≠ 0) (e : ℤ) :
    lastPlace (m * 10 ^ e) = digitCount m.natAbs + e - precision := by
  have hpos : 0 < m.natAbs := Int.natAbs_pos.mpr hm
  have habs : |(m : ℚ) * 10 ^ e| = (m.natAbs : ℚ) * 10 ^ e := by
    rw [abs_mul, abs_of_pos (ten_zpow_pos e), Nat.cast_natAbs, Int.cast_abs]
  have hlow : (10 : ℚ) ^ (digitCount m.natAbs - 1 + e : ℤ) ≤ m.natAbs * 10 ^ e := by
    have hfloor := pow10_le_of_pos hpos
    have hcast : (digitCount m.natAbs : ℤ) - 1 = (digitCount m.natAbs - 1 : ℕ) := by
      have := digitCount_pos m.natAbs
      omega
    rw [ten_zpow_add, hcast, ← cast_pow10]
    exact mul_le_mul_of_nonneg_right (Nat.cast_le.mpr hfloor) (ten_zpow_pos e).le
  have hhigh : m.natAbs * 10 ^ e < (10 : ℚ) ^ (digitCount m.natAbs + e : ℤ) := by
    rw [ten_zpow_add, ← cast_pow10]
    exact mul_lt_mul_of_pos_right (Nat.cast_lt.mpr (lt_pow10_digitCount _)) (ten_zpow_pos e)
  have hsize : 0 < (m.natAbs : ℚ) * 10 ^ e := mul_pos (Nat.cast_pos.mpr hpos) (ten_zpow_pos e)
  have hle : (digitCount m.natAbs : ℤ) - 1 + e ≤ Int.log 10 (m.natAbs * 10 ^ e : ℚ) :=
    (Int.zpow_le_iff_le_log (by decide) hsize).mp hlow
  have hlt : Int.log 10 (m.natAbs * 10 ^ e : ℚ) < digitCount m.natAbs + e :=
    (Int.lt_zpow_iff_log_lt (by decide) hsize).mp hhigh
  rw [lastPlace, habs]
  omega

theorem roundDigits_of_lt {m : ℤ} (hm : m.natAbs < pow10 precision) (e : ℤ) :
    roundDigits (m * 10 ^ e) = m * 10 ^ e := by
  by_cases hzero : m = 0
  · rw [hzero, Int.cast_zero, zero_mul, roundDigits, roundTo_zero]
  · have hcount := digitCount_le_of_lt (by decide) hm
    rw [roundDigits, lastPlace_scaled hzero]
    exact roundTo_ten_zpow m (by omega)

end Decimal128

namespace Wide

open Decimal128

/-! ## Rounding -/

theorem dropDigits_eq (m : ℤ) (n : ℕ) : dropDigits m n = nearestInt (m / 10 ^ (n : ℤ)) := by
  have hnearest := isNearest_roundHalfEven m.natAbs (pow10_pos n)
  rw [cast_pow10] at hnearest
  refine (nearestInt_eq_iff.mpr ?_).symm
  unfold dropDigits
  split
  · have hneg := hnearest.neg
    rwa [Nat.cast_natAbs, abs_of_neg ‹m < 0›, Int.cast_neg, neg_div, neg_neg] at hneg
  · rwa [Nat.cast_natAbs, abs_of_nonneg (not_lt.mp ‹_›)] at hnearest

theorem dropDigits_mul (m : ℤ) (n : ℕ) (e : ℤ) :
    (dropDigits m n : ℚ) * 10 ^ (e + n) = roundTo (10 ^ (e + n)) (m * 10 ^ e) := by
  rw [roundTo, dropDigits_eq, ten_zpow_add e, ← div_div,
    mul_div_cancel_right₀ _ (ten_zpow_pos e).ne']

theorem natAbs_dropDigits (m : ℤ) (n : ℕ) :
    (dropDigits m n).natAbs = roundHalfEven m.natAbs (pow10 n) := by
  unfold dropDigits
  split
  · rw [Int.natAbs_neg, Int.natAbs_natCast]
  · rw [Int.natAbs_natCast]

theorem natAbs_dropDigits_le {m : ℤ} {n k : ℕ} (h : m.natAbs ≤ k * pow10 n) :
    (dropDigits m n).natAbs ≤ k :=
  (natAbs_dropDigits m n).trans_le (roundHalfEven_le (pow10_pos n) h)

theorem roundPrecision_of_le {m : ℤ} (h : digitCount m.natAbs ≤ precision) (s : ℤ) :
    roundPrecision m s = (m, s) := if_pos (by omega)

theorem roundPrecision_of_lt {m : ℤ} (h : precision < digitCount m.natAbs) (s : ℤ) :
    roundPrecision m s = (dropDigits m (digitCount m.natAbs - precision),
      s - (digitCount m.natAbs - precision : ℕ)) := if_neg (by omega)

theorem roundPrecision_mul (m s : ℤ) :
    ((roundPrecision m s).1 : ℚ) * 10 ^ (-(roundPrecision m s).2) =
      roundDigits (m * 10 ^ (-s)) := by
  rcases le_or_gt (digitCount m.natAbs) precision with h | h
  · rw [roundPrecision_of_le h]
    exact (roundDigits_of_lt (lt_pow10_of_digitCount_le h) _).symm
  · have hm : m ≠ 0 := by
      rintro rfl
      rw [Int.natAbs_zero, digitCount_of_lt_ten (by decide)] at h
      exact absurd h (by decide)
    have hplace : -(s - (digitCount m.natAbs - precision : ℕ)) =
        -s + (digitCount m.natAbs - precision : ℕ) := by omega
    have hlast : lastPlace (m * 10 ^ (-s)) = -s + (digitCount m.natAbs - precision : ℕ) := by
      rw [lastPlace_scaled hm]
      omega
    rw [roundPrecision_of_lt h, hplace, dropDigits_mul, roundDigits, hlast]

theorem natAbs_roundPrecision_le (m s : ℤ) : (roundPrecision m s).1.natAbs ≤ pow10 precision := by
  rcases le_or_gt (digitCount m.natAbs) precision with h | h
  · rw [roundPrecision_of_le h]
    exact (lt_pow10_of_digitCount_le h).le
  · rw [roundPrecision_of_lt h]
    -- Rounding may carry into one more place, so the bound is not strict.
    apply natAbs_dropDigits_le
    rw [← pow10_add]
    exact (lt_pow10_of_digitCount_le (by omega)).le

theorem roundScale_of_le {s : ℤ} (h : s ≤ -minExponent) (m : ℤ) : roundScale m s = (m, s) :=
  if_neg (by omega)

theorem roundScale_of_lt {s : ℤ} (h : -minExponent < s) (m : ℤ) :
    roundScale m s = (dropDigits m (s - -minExponent).toNat, -minExponent) := if_pos h

theorem roundScale_mul (m s : ℤ) :
    ((roundScale m s).1 : ℚ) * 10 ^ (-(roundScale m s).2) = roundTo least (m * 10 ^ (-s)) := by
  rcases le_or_gt s (-minExponent) with h | h
  · rw [roundScale_of_le h, least, roundTo_ten_zpow m (by omega)]
  · have hdrop := dropDigits_mul m (s - -minExponent).toNat (-s)
    have hplace : -s + ((s - -minExponent).toNat : ℤ) = minExponent := by omega
    rw [hplace] at hdrop
    rw [roundScale_of_lt h, neg_neg]
    exact hdrop

theorem natAbs_roundScale_le {m : ℤ} {k : ℕ} (h : m.natAbs ≤ k) (s : ℤ) :
    (roundScale m s).1.natAbs ≤ k := by
  rcases le_or_gt s (-minExponent) with hs | hs
  · rwa [roundScale_of_le hs]
  · rw [roundScale_of_lt hs]
    exact natAbs_dropDigits_le (h.trans (Nat.le_mul_of_pos_right k (pow10_pos _)))

theorem minExponent_le_roundScale (m s : ℤ) : minExponent ≤ -(roundScale m s).2 := by
  rcases le_or_gt s (-minExponent) with h | h
  · rw [roundScale_of_le h]
    dsimp only
    omega
  · rw [roundScale_of_lt h, neg_neg]

end Wide

/-! ## Finding a decimal -/

namespace Decimal128

/-- A decimal of exactly this size, or none if the size is beyond the largest decimal. -/
def Holds (x : ℚ) : Option Decimal128 → Prop
  | some d => d.size = .finite x ∧ |x| ≤ largest
  | none => largest < |x|

variable {c e : ℤ}

theorem holds_inRange? (hc : c.natAbs < pow10 precision) (hmin : minExponent ≤ e)
    (hmax : e ≤ maxExponent) : Holds (c * 10 ^ e) (inRange? (c < 0) c.natAbs e) := by
  rw [inRange?, dif_pos ⟨hc, hmin, hmax⟩]
  constructor
  · have hsigned : (if c < 0 then -(c.natAbs : ℚ) else c.natAbs) = c := by
      split
      · rw [Nat.cast_natAbs, abs_of_neg ‹c < 0›, Int.cast_neg, neg_neg]
      · rw [Nat.cast_natAbs, abs_of_nonneg (not_lt.mp ‹_›)]
    simp only [size, decide_eq_true_eq, hsigned]
  · have hcoefficient : (c.natAbs : ℚ) ≤ 10 ^ precision - 1 := by
      rw [le_sub_iff_add_le]
      exact_mod_cast hc
    rw [abs_mul, abs_of_pos (ten_zpow_pos e), ← Int.cast_abs, ← Nat.cast_natAbs]
    exact mul_le_mul hcoefficient (ten_zpow_le hmax) (ten_zpow_pos e).le
      ((Nat.cast_nonneg _).trans hcoefficient)

theorem largest_lt (c : ℤ) {e : ℤ} (hc : c ≠ 0)
    (h : precision + maxExponent < digitCount c.natAbs + e) : largest < |(c : ℚ) * 10 ^ e| := by
  have hpos : 0 < c.natAbs := Int.natAbs_pos.mpr hc
  have hcount := digitCount_pos c.natAbs
  have hfloor : (pow10 (digitCount c.natAbs - 1) : ℚ) ≤ c.natAbs :=
    Nat.cast_le.mpr (pow10_le_of_pos hpos)
  calc largest < 10 ^ (precision : ℤ) * 10 ^ maxExponent := by
        rw [zpow_natCast]
        exact mul_lt_mul_of_pos_right (sub_one_lt _) (ten_zpow_pos _)
    _ = 10 ^ (precision + maxExponent) := (ten_zpow_add _ _).symm
    _ ≤ 10 ^ (((digitCount c.natAbs - 1 : ℕ) : ℤ) + e) := ten_zpow_le (by omega)
    _ = pow10 (digitCount c.natAbs - 1) * 10 ^ e := by rw [ten_zpow_add, cast_pow10]
    _ ≤ c.natAbs * 10 ^ e := mul_le_mul_of_nonneg_right hfloor (ten_zpow_pos e).le
    _ = |(c : ℚ) * 10 ^ e| := by
        rw [abs_mul, abs_of_pos (ten_zpow_pos e), Nat.cast_natAbs, Int.cast_abs]

/-- Zeros are appended to reach the largest exponent. -/
theorem holds_padded {k : ℕ} (hroom : digitCount c.natAbs + k ≤ precision) :
    Holds (c * 10 ^ (maxExponent + k))
      (inRange? (c < 0) (c.natAbs * pow10 k) maxExponent) := by
  have hpos := Int.natCast_pos.mpr (pow10_pos k)
  have hpadded : (c * pow10 k).natAbs = c.natAbs * pow10 k := by
    rw [Int.natAbs_mul, Int.natAbs_natCast]
  have hsign : decide (c < 0) = decide (c * pow10 k < 0) := by
    rw [decide_eq_decide]
    exact ⟨fun h => mul_neg_of_neg_of_pos h hpos, fun h => neg_of_mul_neg_left h hpos.le⟩
  have hlt : (c * pow10 k).natAbs < pow10 precision := by
    rw [hpadded]
    calc c.natAbs * pow10 k
        < pow10 (digitCount c.natAbs) * pow10 k :=
          Nat.mul_lt_mul_of_pos_right (lt_pow10_digitCount _) (pow10_pos _)
      _ = pow10 (digitCount c.natAbs + k) := (pow10_add _ _).symm
      _ ≤ pow10 precision := Nat.pow_le_pow_right (by decide) hroom
  have hholds := holds_inRange? hlt (by decide) le_rfl
  rw [hpadded, ← hsign] at hholds
  have hdiff : maxExponent + k - maxExponent = (k : ℤ) := by omega
  rwa [mul_ten_zpow c (by omega : maxExponent ≤ maxExponent + k), hdiff, Int.toNat_natCast]

theorem holds_clamp? (hzero : c ≠ 0) (hc : c.natAbs < pow10 precision) (hmin : minExponent ≤ e) :
    Holds (c * 10 ^ e) (((Written.ofNat c.natAbs).clamp? e).bind fun (w, f) =>
      inRange? (c < 0) w.coefficient f) := by
  rw [Written.clamp?, if_neg (by omega)]
  by_cases hmax : maxExponent < e
  · obtain ⟨k, hk⟩ := Int.le.dest hmax.le
    have hexcess : (e - maxExponent).toNat = k := by omega
    have hwidth : (Written.ofNat c.natAbs).width = digitCount c.natAbs := rfl
    rw [if_pos hmax, hwidth, hexcess]
    by_cases hroom : digitCount c.natAbs + k ≤ precision
    · rw [if_pos hroom, Option.bind_some, ← hk]
      exact holds_padded hroom
    · rw [if_neg hroom, Option.bind_none]
      exact largest_lt c hzero (by omega)
  · rw [if_neg hmax]
    exact holds_inRange? hc hmin (by omega)

theorem ofParts?_zero (negative : Bool) (e : ℤ) : ofParts? negative 0 e =
    inRange? negative 0 (max minExponent (min e maxExponent)) := by
  have hcount : digitCount 0 = 1 := digitCount_of_lt_ten (by decide)
  rw [ofParts?, ofWritten?, if_pos]
  simp [Written.isZero, Written.ofNat, Written.width, hcount]

theorem ofParts?_of_shorten? {n : ℕ} {w : Written} {f : ℤ} (negative : Bool) (hn : n ≠ 0)
    (h : (Written.ofNat n).shorten? e = some (w, f)) : ofParts? negative n e =
      (w.clamp? f).bind fun (w, g) => inRange? negative w.coefficient g := by
  rw [ofParts?, ofWritten?, if_neg, h]
  · rfl
  · simp [Written.isZero, Written.ofNat, hn]

theorem shorten?_of_lt {n : ℕ} (h : n < pow10 precision) (e : ℤ) :
    (Written.ofNat n).shorten? e = some (.ofNat n, e) := by
  have hcount := digitCount_le_of_lt (by decide) h
  have hwidth : (Written.ofNat n).width = digitCount n := rfl
  have hdigits : 0 < (Written.ofNat n).digits := digitCount_pos n
  have hexcess : digitCount n - precision = 0 := by omega
  simp [Written.shorten?, hwidth, hexcess, Written.dropZeros?, hdigits, pow10_zero, Nat.mod_one]

/-- The zero that a carry leaves behind is dropped. -/
theorem shorten?_carry (e : ℤ) :
    (Written.ofNat (pow10 precision)).shorten? e =
      some (.ofNat (pow10 (precision - 1)), e + 1) := by
  have hcoefficient : pow10 precision = pow10 (precision - 1) * pow10 1 :=
    pow10_add (precision - 1) 1
  have hcount : digitCount (pow10 precision) = precision + 1 := digitCount_pow10 precision
  have hcount' : digitCount (pow10 (precision - 1)) = precision := digitCount_pow10 (precision - 1)
  have hdrop : (Written.ofNat (pow10 precision)).dropZeros? 1 =
      some (.ofNat (pow10 (precision - 1))) := by
    rw [Written.dropZeros?, Written.ofNat, hcount, hcoefficient, if_pos]
    · rw [Written.ofNat, Nat.mul_div_cancel _ (pow10_pos 1), hcount', Nat.add_sub_cancel]
    · rw [Nat.mul_mod_left]
      rfl
  have hexcess : (Written.ofNat (pow10 precision)).width - precision = 1 := by
    have hwidth : (Written.ofNat (pow10 precision)).width = digitCount (pow10 precision) := rfl
    omega
  rw [Written.shorten?, hexcess, hdrop]
  rfl

theorem holds_carry (hc : c.natAbs = pow10 precision) (hmin : minExponent ≤ e) :
    Holds (c * 10 ^ e) (ofParts? (c < 0) c.natAbs e) := by
  obtain ⟨b, hb, hb'⟩ : ∃ b : ℤ, c = b * 10 ∧ b.natAbs = pow10 (precision - 1) := by
    have hsplit : pow10 precision = pow10 (precision - 1) * 10 := rfl
    exact ⟨c / 10, by omega, by omega⟩
  have hpos := pow10_pos (precision - 1)
  have hsign : decide (c < 0) = decide (b < 0) := by
    rw [decide_eq_decide]
    omega
  have hvalue : (c : ℚ) * 10 ^ e = b * 10 ^ (e + 1) := by
    rw [hb, zpow_add_one₀ (by norm_num)]
    push_cast
    ring
  have hlt : b.natAbs < pow10 precision := by
    rw [hb']
    exact Nat.pow_lt_pow_right (by decide) (by decide)
  rw [hc, ofParts?_of_shorten? _ (pow10_pos _).ne' (shorten?_carry e), hsign, hvalue, ← hb']
  exact holds_clamp? (by omega) hlt (by omega)

/-- Up to a carry, a number of 34 digits is held by a decimal unless it is too large. -/
theorem holds_ofParts? (hc : c.natAbs ≤ pow10 precision) (hmin : minExponent ≤ e) :
    Holds (c * 10 ^ e) (ofParts? (c < 0) c.natAbs e) := by
  rcases hc.lt_or_eq with hlt | hcarry
  · rcases eq_or_ne c 0 with rfl | hzero
    · have hholds := holds_inRange? (c := 0) hlt (le_max_left _ (min e maxExponent))
        (max_le (by decide) (min_le_right e _))
      rw [Int.cast_zero, zero_mul] at hholds ⊢
      rwa [Int.natAbs_zero, ofParts?_zero]
    · rw [ofParts?_of_shorten? _ (Int.natAbs_ne_zero.mpr hzero) (shorten?_of_lt hlt e)]
      exact holds_clamp? hzero hlt hmin
  · exact holds_carry hcarry hmin

end Decimal128

/-! ## Storing -/

namespace Wide

open Decimal128

/-- What is left of a finite number when it is stored. -/
def rounded (m s : ℤ) : ℤ × ℤ := roundScale (roundPrecision m s).1 (roundPrecision m s).2

theorem store_finite (m s : ℤ) : store (.finite m s) =
    (ofParts? ((rounded m s).1 < 0) (rounded m s).1.natAbs (-(rounded m s).2)).getD
      (.infinity (m < 0)) := by
  rw [store, rounded]

theorem minExponent_le_rounded (m s : ℤ) : minExponent ≤ -(rounded m s).2 :=
  minExponent_le_roundScale _ _

theorem natAbs_rounded_le (m s : ℤ) : (rounded m s).1.natAbs ≤ pow10 precision :=
  natAbs_roundScale_le (natAbs_roundPrecision_le m s) _

theorem rounded_mul (m s : ℤ) : ((rounded m s).1 : ℚ) * 10 ^ (-(rounded m s).2) =
    roundTo least (roundDigits (m * 10 ^ (-s))) := by
  rw [rounded, roundScale_mul, roundPrecision_mul]

/-- A number is rounded to 34 digits and then to a multiple of the least decimal. Beyond the
largest decimal it becomes an infinity. -/
theorem size_store (m s : ℤ) :
    let y := roundTo least (roundDigits (m * 10 ^ (-s)))
    (store (.finite m s)).size = if largest < |y| then .infinity (m < 0) else .finite y := by
  intro y
  have hholds := holds_ofParts? (natAbs_rounded_le m s) (minExponent_le_rounded m s)
  rw [rounded_mul] at hholds
  rw [store_finite]
  cases hd : ofParts? ((rounded m s).1 < 0) (rounded m s).1.natAbs (-(rounded m s).2) with
  | some d =>
    rw [hd] at hholds
    rw [Option.getD_some, hholds.1, if_neg hholds.2.not_gt]
  | none =>
    rw [hd] at hholds
    have hlarge : largest < |y| := hholds
    rw [Option.getD_none, if_pos hlarge]
    rfl

end Wide

end DocUpdate
