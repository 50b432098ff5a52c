import DocUpdate.Proofs.Number.Digits
import DocUpdate.Proofs.Number.Storing
import DocUpdate.Value.Arithmetic

/-!
# Decimal arithmetic is rounded

A sum or product with a decimal on either side is exact until it is stored. From the least
normal size on it is the exact result rounded to 34 digits. Below that it is rounded a second
time, to the least exponent, and this is the exact result rounded once unless the first rounding
put it on the middle between two decimals.
-/

namespace DocUpdate

/-! ## Exact results -/

/-- The result of an operation on rationals. -/
def Arith.exact : Arith → ℚ → ℚ → ℚ
  | add, p, q => p + q
  | mul, p, q => p * q

namespace Wide

variable {m n s t k u : ℤ}

theorem raiseScale_eq (m s t : ℤ) :
    (raiseScale m s t).2 = max s t ∧
      ((raiseScale m s t).1 : ℚ) * 10 ^ (-(max s t)) = m * 10 ^ (-s) := by
  unfold raiseScale
  split
  · rename_i hlt
    have hplace : -s - -t = t - s := by omega
    rw [max_eq_right hlt.le, mul_ten_zpow m (neg_le_neg hlt.le), hplace]
    exact ⟨rfl, rfl⟩
  · rename_i hle
    rw [max_eq_left (not_lt.mp hle)]
    exact ⟨rfl, rfl⟩

theorem addFinite_mul (m s n t : ℤ) :
    ((addFinite m s n t).1 : ℚ) * 10 ^ (-(addFinite m s n t).2) =
      m * 10 ^ (-s) + n * 10 ^ (-t) := by
  -- Both summands are brought to the larger of their scales.
  obtain ⟨hscale, hm⟩ := raiseScale_eq m s t
  obtain ⟨-, hn⟩ := raiseScale_eq n t s
  rw [max_comm] at hn
  rw [← hm, ← hn, ← add_mul, ← Int.cast_add, ← hscale]
  rfl

theorem isUnit_mul (h : isUnit m s = true) : (m : ℚ) * 10 ^ (-s) = 1 := by
  simp only [isUnit, Bool.and_eq_true, decide_eq_true_eq, beq_iff_eq] at h
  obtain ⟨hs, rfl⟩ := h
  rw [Int.cast_natCast, cast_pow10, ← ten_zpow_add, Int.toNat_of_nonneg hs, add_neg_cancel,
    zpow_zero]

theorem mulFinite_mul (m s n t : ℤ) :
    ((mulFinite m s n t).1 : ℚ) * 10 ^ (-(mulFinite m s n t).2) =
      m * 10 ^ (-s) * (n * 10 ^ (-t)) := by
  unfold mulFinite
  by_cases hleft : isUnit m s = true
  · rw [if_pos hleft, isUnit_mul hleft, one_mul]
  · rw [if_neg hleft]
    by_cases hright : isUnit n t = true
    · rw [if_pos hright, isUnit_mul hright, mul_one]
    · rw [if_neg hright, neg_add, ten_zpow_add]
      push_cast
      ring

theorem exists_finite_of_size {a : Wide} {p : ℚ} (h : a.size = .finite p) :
    ∃ m s : ℤ, a = .finite m s ∧ (m : ℚ) * 10 ^ (-s) = p := by
  cases a with
  | finite m s => exact ⟨m, s, rfl, Size.finite.inj h⟩
  | _ => cases h

theorem exists_onWide_eq (op : Arith) {a b : Wide} {p q : ℚ} (ha : a.size = .finite p)
    (hb : b.size = .finite q) :
    ∃ k u : ℤ, op.onWide a b = .finite k u ∧ (k : ℚ) * 10 ^ (-u) = op.exact p q := by
  obtain ⟨m, s, rfl, rfl⟩ := exists_finite_of_size ha
  obtain ⟨n, t, rfl, rfl⟩ := exists_finite_of_size hb
  cases op with
  | add => exact ⟨_, _, rfl, addFinite_mul m s n t⟩
  | mul => exact ⟨_, _, rfl, mulFinite_mul m s n t⟩

end Wide

/-! ## Results of two sizes -/

namespace Decimal128

variable {x : ℚ}

theorem roundDigits_zero : roundDigits 0 = 0 := roundTo_zero _

theorem le_lastPlace_iff (hx : x ≠ 0) : minExponent ≤ lastPlace x ↔ leastNormal ≤ |x| := by
  have hlog := Int.zpow_le_iff_le_log (b := 10) (x := minExponent + precision - 1) (by decide)
    (abs_pos.mpr hx)
  rw [leastNormal, lastPlace]
  refine Iff.trans ?_ hlog.symm
  omega

theorem leastNormal_eq : leastNormal = pow10 (precision - 1) * least := by
  rw [leastNormal, least, cast_pow10, ← ten_zpow_add]
  rfl

theorem lastPlace_lt (hx : x ≠ 0) (h : |x| < leastNormal) : lastPlace x < minExponent :=
  not_le.mp ((le_lastPlace_iff hx).not.mpr h.not_ge)

theorem roundTo_least_roundDigits (h : x = 0 ∨ leastNormal ≤ |x|) :
    roundTo least (roundDigits x) = roundDigits x := by
  rcases h with rfl | h
  · rw [roundDigits_zero, roundTo_zero]
  · rcases eq_or_ne x 0 with rfl | hx
    · rw [roundDigits_zero, roundTo_zero]
    · exact roundTo_ten_zpow _ ((le_lastPlace_iff hx).mpr h)

/-- Below the least normal size the two roundings are one, unless the first one puts the number
on the middle between two multiples of the least decimal. -/
theorem roundTo_least_roundDigits_iff (hx : x ≠ 0) (h : |x| < leastNormal) :
    roundTo least (roundDigits x) = roundTo least x ↔
      ¬ Displaced least (10 ^ lastPlace x) x := by
  have hplace := lastPlace_lt hx h
  obtain ⟨k, hk⟩ : ∃ k : ℕ, minExponent = k + 1 + lastPlace x :=
    ⟨(minExponent - lastPlace x - 1).toNat, by omega⟩
  have hleast : least = 2 * (5 * pow10 k : ℕ) * 10 ^ lastPlace x := by
    rw [least, hk, ten_zpow_add, ten_zpow_add, Nat.cast_mul, cast_pow10, zpow_one]
    push_cast
    ring
  exact roundTo_roundTo_iff (ten_zpow_pos _) (Nat.mul_pos (by decide) (pow10_pos k)) hleast

theorem abs_sub_roundTo_roundDigits_le (x : ℚ) :
    |x - roundTo least (roundDigits x)| ≤ (10 ^ lastPlace x + least) / 2 := by
  have hdigits : |x - roundDigits x| ≤ 10 ^ lastPlace x / 2 := abs_sub_roundTo_le (ten_zpow_pos _) x
  have hleast := abs_sub_roundTo_le least_pos (roundDigits x)
  calc |x - roundTo least (roundDigits x)|
      ≤ |x - roundDigits x| + |roundDigits x - roundTo least (roundDigits x)| := abs_sub_le _ _ _
    _ ≤ 10 ^ lastPlace x / 2 + least / 2 := add_le_add hdigits hleast
    _ = (10 ^ lastPlace x + least) / 2 := (add_div _ _ _).symm

/-- A multiple of the least decimal that is below the least normal size has 33 digits. -/
theorem roundDigits_of_multiple {m s : ℤ} (hs : s ≤ -minExponent)
    (hlt : |(m : ℚ) * 10 ^ (-s)| < leastNormal) :
    roundDigits (m * 10 ^ (-s)) = m * 10 ^ (-s) := by
  rw [mul_ten_zpow m (by omega : minExponent ≤ -s)] at hlt ⊢
  generalize m * pow10 (-s - minExponent).toNat = k at hlt ⊢
  rw [leastNormal_eq, least, abs_mul, abs_of_pos (ten_zpow_pos minExponent),
    mul_lt_mul_iff_left₀ (ten_zpow_pos minExponent), ← Int.cast_abs, ← Nat.cast_natAbs] at hlt
  refine roundDigits_of_lt ?_ _
  exact (Nat.cast_lt.mp hlt).trans (Nat.pow_lt_pow_right (by decide) (by decide))

theorem abs_roundTo_roundDigits_le (hx : x ≠ 0) (h : |x| < leastNormal) :
    |roundTo least (roundDigits x)| ≤ largest := by
  have hplace : (10 : ℚ) ^ lastPlace x ≤ least := ten_zpow_le (lastPlace_lt hx h).le
  have hmoved := abs_sub_roundTo_roundDigits_le x
  have hnormal : leastNormal ≤ 1 := ten_zpow_le (f := 0) (by decide)
  have hleast : least ≤ 1 := ten_zpow_le (f := 0) (by decide)
  have hlargest : 2 ≤ largest := by
    have hpower : (1 : ℚ) ≤ 10 ^ maxExponent := ten_zpow_le (e := 0) (by decide)
    have hcoefficient : (2 : ℚ) ≤ 10 ^ precision - 1 := by norm_num [precision]
    exact hcoefficient.trans (le_mul_of_one_le_right (by linarith) hpower)
  calc |roundTo least (roundDigits x)|
      = |x - (x - roundTo least (roundDigits x))| := by rw [sub_sub_cancel]
    _ ≤ |x| + |x - roundTo least (roundDigits x)| := abs_sub _ _
    _ ≤ largest := by linarith

end Decimal128

/-! ## How many places a stored number has -/

theorem le_stripZerosUpTo (fuel n : ℕ) (e : ℤ) : e ≤ (stripZerosUpTo fuel n e).2 := by
  induction fuel generalizing n e with
  | zero => exact le_rfl
  | succ fuel ih =>
    rw [stripZerosUpTo]
    split
    · exact (Int.le_add_one le_rfl).trans (ih _ _)
    · exact le_rfl

theorem le_stripZeros (n : ℕ) (e : ℤ) : e ≤ (stripZeros n e).2 := by
  unfold stripZeros
  split
  · exact le_rfl
  · exact le_stripZerosUpTo _ n e

theorem le_decimalPoint {m : ℕ} (hm : 0 < m) (e : ℤ) :
    1 - ((-e).toNat : ℤ) ≤ decimalPoint m e := by
  have hn : 0 < m * pow2 e.toNat := Nat.mul_pos hm (pow2_pos _)
  unfold decimalPoint
  dsimp only
  generalize m * pow2 e.toNat = n at hn ⊢
  split
  · have := digitCount_pos (n / pow2 (-e).toNat)
    omega
  · rename_i hlt
    have hplaces : 0 < (-e).toNat := by
      refine Nat.pos_of_ne_zero fun hzero => ?_
      rw [hzero, pow2_zero] at hlt
      omega
    have hcount : digitCount (pow2 (-e).toNat / n) ≤ (-e).toNat := by
      refine digitCount_le_of_lt hplaces ((Nat.div_le_self _ _).trans_lt ?_)
      exact Nat.pow_lt_pow_left (by decide) hplaces.ne'
    omega

theorem Double.le_shortest {x : Double} (hx : 0 < x.significand) (tie : Tie) :
    -1090 ≤ (x.shortest tie).2 := by
  rw [shortest_eq]
  refine le_trans ?_ (le_stripZeros _ _)
  cases hfound : (List.range 17).findSome? (x.candidate tie) with
  | none => decide
  | some found =>
    obtain ⟨n, hn, hcandidate⟩ := List.exists_of_findSome?_eq_some hfound
    obtain ⟨t, -, rfl⟩ := Option.map_eq_some_iff.mp hcandidate
    have hpoint := le_decimalPoint hx x.exponent
    have hexponent := x.exponent_ge
    rw [List.mem_range] at hn
    rw [Option.getD_some, place]
    omega

/-- A number that is widened has at most as many places as a decimal can have. -/
theorem Number.scale_le {n : Number} {m s : ℤ} (h : n.widen = .finite m s) :
    s ≤ -Decimal128.minExponent := by
  cases n with
  | int n =>
    cases h
    decide
  | decimal d =>
    cases d with
    | finite d =>
      cases h
      exact Int.neg_le_neg d.minExponent_le
    | _ => cases h
  | double x =>
    have hx : x.isFinite = true := by
      rw [← x.bracket_eq_two_iff, ← x.bracket_size_ofDouble]
      exact congrArg (fun w => w.size.bracket) h
    have hwiden : Wide.ofDouble x = .finite m s := h
    rw [Double.ofDouble_of_finite hx] at hwiden
    split at hwiden
    · cases hwiden
      decide
    · rename_i hzero
      split at hwiden
      · cases hwiden
        decide
      · cases hwiden
        have hsignificand : 0 < x.significand := by
          refine Nat.pos_of_ne_zero fun h => hzero ?_
          simp [Double.isZero, hx, h]
        have := Double.le_shortest hsignificand .up
        exact Int.neg_le_neg (le_trans (by decide) this)

/-! ## Arithmetic with a decimal -/

namespace Value

open Decimal128

section

variable {a b : Value} {m n : Number} {p q : ℚ}

theorem arithmetic_decimal (op : Arith) (ha : a.number? = some m) (hb : b.number? = some n)
    (hdecimal : a.kind = .decimal ∨ b.kind = .decimal) :
    arithmetic op a b = some (.decimal (op.onWide m.widen n.widen).store) := by
  have hcombine : combine op m n = .decimal (op.onWide m.widen n.widen).store := by
    rcases hdecimal with h | h
    · cases a <;> cases h
      cases ha
      cases n <;> rfl
    · cases b <;> cases h
      cases hb
      cases m <;> rfl
  rw [← hcombine]
  unfold arithmetic
  split
  · rcases hdecimal with h | h <;> cases h
  · rw [ha, hb]

variable {op : Arith} {x : ℚ}

/-- The exact result is rounded to 34 digits and to the least exponent, or is an infinity. -/
theorem exists_arithmetic_decimal (ha : a.number? = some m) (hb : b.number? = some n)
    (hdecimal : a.kind = .decimal ∨ b.kind = .decimal) (hp : m.widen.size = .finite p)
    (hq : n.widen.size = .finite q) (hx : op.exact p q = x) :
    let y := roundTo least (roundDigits x)
    ∃ d, arithmetic op a b = some (.decimal d) ∧
      d.size = if largest < |y| then .infinity (x < 0) else .finite y := by
  intro y
  obtain ⟨k, u, hwide, hvalue⟩ := Wide.exists_onWide_eq op hp hq
  rw [hx] at hvalue
  refine ⟨_, arithmetic_decimal op ha hb hdecimal, ?_⟩
  have hsign : decide (k < 0) = decide (x < 0) := by
    rw [decide_eq_decide, ← hvalue, ← zero_mul ((10 : ℚ) ^ (-u)),
      mul_lt_mul_iff_left₀ (ten_zpow_pos (-u)), Int.cast_lt_zero]
  rw [hwide, Wide.size_store, hvalue, hsign]

theorem roundDigits_of_sum (hp : m.widen.size = .finite p) (hq : n.widen.size = .finite q)
    (hx : p + q = x) (hlt : |x| < leastNormal) : roundDigits x = x ∧ roundTo least x = x := by
  obtain ⟨c, s, hm, hc⟩ := Wide.exists_finite_of_size hp
  obtain ⟨c', t, hn, hc'⟩ := Wide.exists_finite_of_size hq
  have hsum := Wide.addFinite_mul c s c' t
  -- The scale of a sum is one of the two, so it does not pass the least exponent.
  have hscale : (Wide.addFinite c s c' t).2 ≤ -minExponent :=
    (Wide.raiseScale_eq c s t).1.trans_le (max_le (Number.scale_le hm) (Number.scale_le hn))
  rw [hc, hc', hx] at hsum
  rw [← hsum] at hlt ⊢
  exact ⟨roundDigits_of_multiple hscale hlt, roundTo_ten_zpow _ (by omega)⟩

/-- Let `x` be the exact sum or product of two numbers, one of them a decimal. If `x` is zero or
has a normal size, the result is `x` rounded to 34 digits, or an infinity with the sign of `x`
exactly if this is larger than every decimal. -/
theorem arithmetic_of_normal (ha : a.number? = some m) (hb : b.number? = some n)
    (hdecimal : a.kind = .decimal ∨ b.kind = .decimal) (hp : m.widen.size = .finite p)
    (hq : n.widen.size = .finite q) (hx : op.exact p q = x) (hnormal : x = 0 ∨ leastNormal ≤ |x|) :
    ∃ d, arithmetic op a b = some (.decimal d) ∧
      d.size = (if largest < |roundDigits x| then .infinity (x < 0) else .finite (roundDigits x)) ∧
      ∀ c e : ℤ, c.natAbs < pow10 precision → x = c * 10 ^ e → roundDigits x = x := by
  obtain ⟨d, hd, hsize⟩ := exists_arithmetic_decimal ha hb hdecimal hp hq hx
  rw [roundTo_least_roundDigits hnormal] at hsize
  refine ⟨d, hd, hsize, ?_⟩
  rintro c e hc rfl
  exact roundDigits_of_lt hc e

/-- A sum of 35 digits in the middle between two decimals goes to the even one. -/
theorem add_half_to_even :
    let a : Value := .decimal (.finite ⟨false, 1000000000000000000000000000000000, 0,
      by decide, by decide, by decide⟩)
    let b : Value := .decimal (.finite ⟨false, 5, -1, by decide, by decide, by decide⟩)
    ∃ d, arithmetic .add a b = some (.decimal d) ∧ d.size = .finite (10 ^ 33) := by
  intro a b
  have hx : Arith.add.exact ((10 ^ 33 : ℤ) * 10 ^ (0 : ℤ)) ((5 : ℤ) * 10 ^ (-1 : ℤ)) =
      (10 ^ 34 + 5 : ℤ) * 10 ^ (-1 : ℤ) := by
    rw [Arith.exact]
    norm_num
  have hcount : digitCount (10 ^ 34 + 5 : ℤ).natAbs = 35 := by decide +kernel
  have hplace : lastPlace ((10 ^ 34 + 5 : ℤ) * 10 ^ (-1 : ℤ)) = 0 := by
    rw [lastPlace_scaled (by decide), hcount]
    rfl
  have hdigits : roundDigits ((10 ^ 34 + 5 : ℤ) * 10 ^ (-1 : ℤ)) = 10 ^ 33 := by
    have hnearest : IsNearest ((10 ^ 34 + 5 : ℤ) * 10 ^ (-1 : ℤ)) (10 ^ 33) :=
      ⟨by norm_num [abs_le], fun _ => by decide⟩
    rw [roundDigits, hplace, roundTo, zpow_zero, div_one, mul_one, nearestInt_eq_iff.mpr hnearest]
    norm_cast
  have hone : (1 : ℚ) ≤ 10 ^ maxExponent := ten_zpow_le (e := 0) (by decide)
  have hnormal : leastNormal ≤ 1 := ten_zpow_le (f := 0) (by decide)
  obtain ⟨d, hd, hsize, -⟩ := arithmetic_of_normal (a := a) (b := b) rfl rfl (.inl rfl) rfl rfl hx
    (.inr (hnormal.trans (by norm_num)))
  have hlargest : |(10 : ℚ) ^ 33| ≤ largest :=
    le_trans (by norm_num [precision]) (le_mul_of_one_le_right (by norm_num [precision]) hone)
  rw [hdigits, if_neg hlargest.not_gt] at hsize
  exact ⟨d, hd, hsize⟩

/-- Let `x` be the exact sum or product of two numbers, one of them a decimal. If `x` is below the
least normal size, it is rounded twice. The result is `x` rounded once to a multiple of the least
decimal unless the first rounding displaced it, which no sum does. -/
theorem arithmetic_of_subnormal (ha : a.number? = some m) (hb : b.number? = some n)
    (hdecimal : a.kind = .decimal ∨ b.kind = .decimal) (hp : m.widen.size = .finite p)
    (hq : n.widen.size = .finite q) (hx : op.exact p q = x) (hzero : x ≠ 0)
    (hlt : |x| < leastNormal) :
    ∃ d y, arithmetic op a b = some (.decimal d) ∧ d.size = .finite y ∧
      y = roundTo least (roundDigits x) ∧ |x - y| ≤ (10 ^ lastPlace x + least) / 2 ∧
      (y = roundTo least x ↔ ¬ Displaced least (10 ^ lastPlace x) x) ∧
      (op = .add → y = x) := by
  obtain ⟨d, hd, hsize⟩ := exists_arithmetic_decimal ha hb hdecimal hp hq hx
  rw [if_neg (abs_roundTo_roundDigits_le hzero hlt).not_gt] at hsize
  refine ⟨d, _, hd, hsize, rfl, abs_sub_roundTo_roundDigits_le x,
    roundTo_least_roundDigits_iff hzero hlt, ?_⟩
  rintro rfl
  obtain ⟨hdigits, hleast⟩ := roundDigits_of_sum hp hq hx hlt
  rw [hdigits, hleast]

end

/-- A product in the middle between two multiples of the least decimal goes to the even one. -/
theorem mul_half_to_even :
    let a : Value := .decimal (.finite ⟨false, 15, -6001, by decide, by decide, by decide⟩)
    let b : Value := .decimal (.finite ⟨false, 1, -176, by decide, by decide, by decide⟩)
    ∃ d, arithmetic .mul a b = some (.decimal d) ∧ d.size = .finite (2 * least) := by
  intro a b
  have hx : Arith.mul.exact ((15 : ℤ) * 10 ^ (-6001 : ℤ)) ((1 : ℤ) * 10 ^ (-176 : ℤ)) =
      (15 : ℤ) * 10 ^ (-6177 : ℤ) := by
    rw [Arith.exact, Int.cast_one, one_mul, mul_assoc, ← ten_zpow_add]
    rfl
  have hscale : ((15 : ℤ) : ℚ) * 10 ^ (-6177 : ℤ) = 3 / 2 * least := by
    have hsplit : (10 : ℚ) ^ (-6177 : ℤ) = 10 ^ (-1 : ℤ) * 10 ^ minExponent := by
      rw [← ten_zpow_add]
      rfl
    rw [hsplit, least, ← mul_assoc]
    norm_num
  have hpos : (0 : ℚ) < 3 / 2 * least := mul_pos (by norm_num) least_pos
  have hlt : |3 / 2 * least| < leastNormal := by
    rw [abs_of_pos hpos, leastNormal_eq, mul_lt_mul_iff_left₀ least_pos, cast_pow10]
    norm_num [precision]
  have honce : roundTo least (3 / 2 * least) = 2 * least := by
    have hnearest : IsNearest (3 / 2) 2 := ⟨by norm_num [abs_le], fun _ => by decide⟩
    rw [roundTo, mul_div_cancel_right₀ _ least_pos.ne', nearestInt_eq_iff.mpr hnearest,
      Int.cast_ofNat]
  have hdigits := roundDigits_of_lt (m := 15) (by decide) (-6177)
  rw [hscale] at hx hdigits
  obtain ⟨d, y, hd, hsize, hy, -⟩ := arithmetic_of_subnormal (a := a) (b := b) rfl rfl (.inl rfl)
    rfl rfl hx hpos.ne' hlt
  rw [hdigits, honce] at hy
  exact ⟨d, hd, hsize.trans (congrArg _ hy)⟩

/-- A product little above half of the least decimal is half of it in 34 digits, and then zero. -/
theorem mul_displaced :
    let c : Decimal128 := .finite ⟨false, 2380952380952380952380952380952381, -6176,
      by decide, by decide, by decide⟩
    let d : Decimal128 := .finite ⟨false, 21, -35, by decide, by decide, by decide⟩
    ∃ p q r, (Number.decimal c).widen.size = .finite p ∧ (Number.decimal d).widen.size = .finite q ∧
      0 < p * q ∧ p * q < leastNormal ∧ roundTo least (p * q) = least ∧
      arithmetic .mul (.decimal c) (.decimal d) = some (.decimal r) ∧ r.size = .finite 0 := by
  intro c d
  have hc : (Number.decimal c).widen.size =
      .finite ((2380952380952380952380952380952381 : ℤ) * 10 ^ (-6176 : ℤ)) := rfl
  have hd : (Number.decimal d).widen.size = .finite ((21 : ℤ) * 10 ^ (-35 : ℤ)) := rfl
  have hx : ((2380952380952380952380952380952381 : ℤ) : ℚ) * 10 ^ (-6176 : ℤ) *
      ((21 : ℤ) * 10 ^ (-35 : ℤ)) = (5 * 10 ^ 34 + 1) / 10 ^ 35 * least := by
    rw [least, minExponent]
    generalize (10 : ℚ) ^ (-6176 : ℤ) = u
    norm_num
    ring
  have hstore : (Arith.mul.onWide (Number.decimal c).widen (Number.decimal d).widen).store =
      .finite ⟨false, 0, -6176, by decide, by decide, by decide⟩ := by decide +kernel
  have hresult := arithmetic_decimal (a := .decimal c) (b := .decimal d) .mul rfl rfl (.inl rfl)
  rw [hstore] at hresult
  refine ⟨_, _, _, hc, hd, ?_, ?_, ?_, hresult, ?_⟩
  · rw [hx]
    exact mul_pos (by norm_num) least_pos
  · rw [hx, leastNormal_eq, mul_lt_mul_iff_left₀ least_pos, cast_pow10]
    norm_num [precision]
  · have hnearest : IsNearest ((5 * 10 ^ 34 + 1) / 10 ^ 35) 1 :=
      isNearest_of_lt (by norm_num [abs_lt])
    rw [hx, roundTo, mul_div_cancel_right₀ _ least_pos.ne', nearestInt_eq_iff.mpr hnearest,
      Int.cast_one, one_mul]
  · simp [size]

end Value

end DocUpdate
