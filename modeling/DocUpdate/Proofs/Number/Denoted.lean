import Mathlib.Order.WithBot
import Mathlib.Tactic.FieldSimp
import Mathlib.Tactic.NormNum
import Mathlib.Tactic.Ring
import DocUpdate.Proofs.Number.Size

/-!
# What a number denotes

The bits of a double and the parts of a decimal denote a rational or an infinity, or they are NaN.
Sizes stand in the order of what they denote, which is that of the rationals with the infinities
at the ends and NaN below.
-/

namespace DocUpdate

/-! ## Extended rationals -/

/-- The rationals, an infinity at either end and NaN below everything. -/
abbrev ExtRat := WithBot (WithBot (WithTop ℚ))

namespace ExtRat

def nan : ExtRat := ⊥

def rational (q : ℚ) : ExtRat := ((q : WithTop ℚ) : WithBot (WithTop ℚ))

def infinity (negative : Bool) : ExtRat :=
  ((if negative then ⊥ else (⊤ : WithTop ℚ) : WithBot (WithTop ℚ)) : ExtRat)

theorem rational_lt_rational {p q : ℚ} : rational p < rational q ↔ p < q := by
  rw [rational, rational, WithBot.coe_lt_coe, WithBot.coe_lt_coe, WithTop.coe_lt_coe]

theorem rational_inj {p q : ℚ} : rational p = rational q ↔ p = q := by
  rw [rational, rational, WithBot.coe_inj, WithBot.coe_inj, WithTop.coe_inj]

theorem nan_lt_rational (q : ℚ) : nan < rational q := WithBot.bot_lt_coe _

theorem nan_lt_infinity (negative : Bool) : nan < infinity negative := WithBot.bot_lt_coe _

theorem infinity_lt_rational (q : ℚ) : infinity true < rational q :=
  WithBot.coe_lt_coe.mpr (WithBot.bot_lt_coe _)

theorem rational_lt_infinity (q : ℚ) : rational q < infinity false :=
  WithBot.coe_lt_coe.mpr (WithBot.coe_lt_coe.mpr (WithTop.coe_lt_top q))

theorem infinity_lt_infinity : infinity true < infinity false :=
  (infinity_lt_rational 0).trans (rational_lt_infinity 0)

end ExtRat

namespace Size

def denoted : Size → ExtRat
  | nan => .nan
  | infinity negative => .infinity negative
  | finite q => .rational q

theorem denoted_lt_of_bracket_lt {s t : Size} (h : s.bracket < t.bracket) :
    s.denoted < t.denoted := by
  rcases s with _ | ⟨_ | _⟩ | p <;> rcases t with _ | ⟨_ | _⟩ | q
  case nan.infinity.false | nan.infinity.true => exact ExtRat.nan_lt_infinity _
  case nan.finite => exact ExtRat.nan_lt_rational q
  case infinity.true.infinity.false => exact ExtRat.infinity_lt_infinity
  case infinity.true.finite => exact ExtRat.infinity_lt_rational q
  case finite.infinity.false => exact ExtRat.rational_lt_infinity p
  all_goals simp [bracket] at h

/-- Within a bracket only the rationals differ. -/
theorem eq_or_finite_of_bracket_eq {s t : Size} (h : s.bracket = t.bracket) :
    s = t ∨ ∃ p q, s = finite p ∧ t = finite q := by
  rcases s with _ | ⟨_ | _⟩ | p <;> rcases t with _ | ⟨_ | _⟩ | q
  case finite.finite => exact .inr ⟨p, q, rfl, rfl⟩
  all_goals simp_all [bracket]

/-- Sizes are ordered as what they denote. -/
theorem cmp_eq_compare_denoted (s t : Size) : s.cmp t = compare s.denoted t.denoted := by
  rcases lt_trichotomy s.bracket t.bracket with h | h | h
  · have hlt := denoted_lt_of_bracket_lt h
    rw [cmp_of_bracket_ne s t h.ne, compare_lt_iff_lt.mpr h, compare_lt_iff_lt.mpr hlt]
  · obtain rfl | ⟨p, q, rfl, rfl⟩ := eq_or_finite_of_bracket_eq h
    · rw [cmp_self, compare_eq_iff_eq.mpr rfl]
    · exact compare_eq_of_lt_iff ExtRat.rational_lt_rational.symm
        ExtRat.rational_lt_rational.symm
  · have hgt := denoted_lt_of_bracket_lt h
    rw [cmp_of_bracket_ne s t h.ne', compare_gt_iff_gt.mpr h, compare_gt_iff_gt.mpr hgt]

end Size

/-! ## Numbers -/

/-- What 64 bits denote: a sign, 11 bits of exponent and 52 of fraction. The greatest exponent is
that of the infinities and of NaN, and with the least one nothing is added to the fraction. -/
def Double.denoted (x : Double) : ExtRat :=
  let bits := x.bits.toBitVec
  let exponent := (bits.extractLsb' 52 11).toNat
  let fraction : ℚ := (bits.extractLsb' 0 52).toNat / 2 ^ 52
  let sign : ℚ := if bits.msb then -1 else 1
  if exponent = 2047 then if fraction = 0 then .infinity bits.msb else .nan
  else if exponent = 0 then .rational (sign * fraction * 2 ^ (-1022 : Int))
  else .rational (sign * (1 + fraction) * 2 ^ ((exponent : Int) - 1023))

/-- A finite decimal denotes its coefficient times its power of ten. -/
def Decimal128.denoted : Decimal128 → ExtRat
  | nan _ _ => .nan
  | infinity negative => .infinity negative
  | finite d => .rational ((if d.negative then -1 else 1) * d.coefficient * 10 ^ d.exponent)

def Number.denoted : Number → ExtRat
  | int n => .rational n
  | double x => x.denoted
  | decimal d => d.denoted

namespace Double

variable (x : Double)

theorem msb_bits : x.bits.toBitVec.msb = x.negative := BitVec.msb_eq_decide _

theorem toNat_exponent_bits : (x.bits.toBitVec.extractLsb' 52 11).toNat = x.exponentField := by
  rw [BitVec.extractLsb'_toNat, Nat.shiftRight_eq_div_pow]
  rfl

theorem toNat_fraction_bits : (x.bits.toBitVec.extractLsb' 0 52).toNat = x.fractionField := by
  rw [BitVec.extractLsb'_toNat, Nat.shiftRight_zero]
  rfl

theorem denoted_size : x.size.denoted = x.denoted := by
  have hsign : (x.signed : ℚ) = (if x.negative then -1 else 1) * x.significand := by
    rw [signed]
    split <;> simp
  simp only [denoted, msb_bits, toNat_exponent_bits, toNat_fraction_bits]
  by_cases hmax : x.exponentField = 2047
  · have hfinite : ¬ x.isFinite = true := by simpa [isFinite] using hmax
    rw [if_pos hmax, size, if_neg hfinite]
    by_cases hfraction : x.fractionField = 0 <;> simp [isNaN, hmax, hfraction, Size.denoted]
  · rw [if_neg hmax, size_of_finite (by simpa [isFinite] using hmax), Size.denoted, hsign]
    -- The fraction is a fraction of the hidden bit, which is 52 places to the left.
    have hplaces (e : Int) : (2 : ℚ) ^ (e - 52) = 2 ^ e / 2 ^ 52 := by
      rw [zpow_sub₀ two_ne_zero, zpow_ofNat]
    by_cases hzero : x.exponentField = 0
    · have hexponent : x.exponent = -1022 - 52 := by rw [exponent, hzero]; rfl
      rw [if_pos hzero, significand, if_pos hzero, hexponent, hplaces]
      congr 1
      ring
    · have hexponent : x.exponent = (x.exponentField : Int) - 1023 - 52 := by
        rw [exponent]
        omega
      have hhidden : ((pow2 52 + x.fractionField : Nat) : ℚ) = 2 ^ 52 + x.fractionField := by
        norm_num [pow2]
      rw [if_neg hzero, significand, if_neg hzero, hexponent, hplaces, hhidden]
      congr 1
      field_simp

end Double

theorem Decimal128.denoted_size (d : Decimal128) : d.size.denoted = d.denoted := by
  cases d with
  | nan | infinity => rfl
  | finite d =>
    rw [size, Size.denoted, denoted]
    cases d.negative <;> simp

/-- The exact size of a number is what its bits denote. -/
theorem Number.denoted_size (x : Number) : x.size.denoted = x.denoted := by
  cases x with
  | int n => rfl
  | double x => exact x.denoted_size
  | decimal d => exact d.denoted_size

end DocUpdate
