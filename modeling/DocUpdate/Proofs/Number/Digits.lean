import Mathlib.Tactic.NormNum
import DocUpdate.Proofs.Number.Interval

/-!
# Doubles are ordered as their shortest digits

The shortest digits of a double are one of the numbers that round to it, as seventeen digits
are always enough to find one. So digits compare as the doubles do that they belong to.
-/

namespace DocUpdate

theorem zpow_mul_pow_toNat {b : ℚ} (hb : b ≠ 0) (n : Int) :
    b ^ n * b ^ (-n).toNat = b ^ n.toNat := by
  rw [← zpow_natCast, ← zpow_natCast, ← zpow_add₀ hb]
  congr 1
  omega

namespace Double

variable {x y : Double} {s : Int} {t : Nat} {tie : Tie}

/-! ## Multiples of a power of ten -/

/-- What a quarter and a power of ten are multiplied by to be whole numbers. -/
def unit (x : Double) (s : Int) : Nat := pow2 (-(x.exponent - 2)).toNat * pow10 (-s).toNat

def valueUnit (x : Double) (s : Int) : Nat := pow2 (x.exponent - 2).toNat * pow10 (-s).toNat

def gridUnit (x : Double) (s : Int) : Nat := pow10 s.toNat * pow2 (-(x.exponent - 2)).toNat

/-- The multiple of a power of ten just below the double, or at it. -/
def below (x : Double) (s : Int) : Nat := 4 * x.significand * x.valueUnit s / x.gridUnit s

/-- The test that picks multiples of a power of ten. -/
def inside (x : Double) (s : Int) (t : Nat) : Bool :=
  if x.significand % 2 = 0 then
    x.lowQuarters * x.valueUnit s ≤ t * x.gridUnit s &&
      t * x.gridUnit s ≤ x.highQuarters * x.valueUnit s
  else
    x.lowQuarters * x.valueUnit s < t * x.gridUnit s &&
      t * x.gridUnit s < x.highQuarters * x.valueUnit s

theorem unit_pos (x : Double) (s : Int) : (0 : ℚ) < x.unit s :=
  Nat.cast_pos.mpr (Nat.mul_pos (pow2_pos _) (pow10_pos _))

theorem cast_valueUnit (x : Double) (s : Int) : (x.valueUnit s : ℚ) = x.quarter * x.unit s := by
  have hscale := zpow_mul_pow_toNat (two_ne_zero (α := ℚ)) (x.exponent - 2)
  have hunit : (x.unit s : ℚ) = 2 ^ (-(x.exponent - 2)).toNat * 10 ^ (-s).toNat := by
    simp [unit, pow2, pow10]
  rw [hunit, quarter, ← mul_assoc, hscale]
  simp [valueUnit, pow2, pow10]

theorem cast_gridUnit (x : Double) (s : Int) : (x.gridUnit s : ℚ) = 10 ^ s * x.unit s := by
  have hscale := zpow_mul_pow_toNat (by norm_num : (10 : ℚ) ≠ 0) s
  have hunit : (x.unit s : ℚ) = 10 ^ (-s).toNat * 2 ^ (-(x.exponent - 2)).toNat := by
    simp [unit, pow2, pow10, mul_comm]
  rw [hunit, ← mul_assoc, hscale]
  simp [gridUnit, pow2, pow10]

/-- Whole numbers of quarters and of powers of ten are compared in the common unit. -/
theorem quarters_le_iff (n : Nat) :
    n * x.valueUnit s ≤ t * x.gridUnit s ↔ (n * x.quarter : ℚ) ≤ t * 10 ^ s := by
  rw [← Nat.cast_le (α := ℚ), Nat.cast_mul, Nat.cast_mul, cast_valueUnit, cast_gridUnit,
    ← mul_assoc, ← mul_assoc, mul_le_mul_iff_left₀ (x.unit_pos s)]

theorem le_quarters_iff (n : Nat) :
    t * x.gridUnit s ≤ n * x.valueUnit s ↔ (t * 10 ^ s : ℚ) ≤ n * x.quarter := by
  rw [← Nat.cast_le (α := ℚ), Nat.cast_mul, Nat.cast_mul, cast_valueUnit, cast_gridUnit,
    ← mul_assoc, ← mul_assoc, mul_le_mul_iff_left₀ (x.unit_pos s)]

theorem inside_iff : x.inside s t = true ↔ x.Rounds (t * 10 ^ s) := by
  unfold inside Rounds
  split
  · rw [Bool.and_eq_true, decide_eq_true_eq, decide_eq_true_eq, quarters_le_iff, le_quarters_iff]
  · rw [Bool.and_eq_true, decide_eq_true_eq, decide_eq_true_eq, ← not_le, ← not_le,
      quarters_le_iff, le_quarters_iff, not_le, not_le]

theorem below_le (x : Double) (s : Int) : x.below s * 10 ^ s ≤ x.magnitude := by
  rw [magnitude, ← le_quarters_iff]
  exact Nat.div_mul_le_self _ _

theorem lt_below_succ (x : Double) (s : Int) : x.magnitude < (x.below s + 1 : Nat) * 10 ^ s := by
  rw [magnitude, ← not_le, ← le_quarters_iff, Nat.not_le]
  exact Nat.lt_mul_of_div_lt (Nat.lt_succ_self _)
    (Nat.mul_pos (pow10_pos _) (pow2_pos _))

/-- A multiple that is found is one of the two around the double, and rounds to it. -/
theorem onGrid?_eq (x : Double) (tie : Tie) (s : Int) :
    x.onGrid? tie s = match x.inside s (x.below s), x.inside s (x.below s + 1) with
      | false, false => none
      | true, false => some (x.below s)
      | false, true => some (x.below s + 1)
      | true, true =>
        match compare (2 * (4 * x.significand * x.valueUnit s))
            ((2 * x.below s + 1) * x.gridUnit s) with
        | .lt => some (x.below s)
        | .gt => some (x.below s + 1)
        | .eq => some (if tie = .even ∧ x.below s % 2 = 0 then x.below s else x.below s + 1) := rfl

theorem rounds_of_onGrid? (h : x.onGrid? tie s = some t) : x.Rounds (t * 10 ^ s) := by
  rw [onGrid?_eq] at h
  rw [← inside_iff]
  split at h
  case h_1 => cases h
  case h_2 hbelow _ => cases h; exact hbelow
  case h_3 _ habove => cases h; exact habove
  case h_4 hbelow habove =>
    have hnear : t = x.below s ∨ t = x.below s + 1 := by
      split at h
      · exact .inl (Option.some.inj h).symm
      · exact .inr (Option.some.inj h).symm
      · split at h
        · exact .inl (Option.some.inj h).symm
        · exact .inr (Option.some.inj h).symm
    rcases hnear with rfl | rfl <;> assumption

theorem exists_onGrid?_of_rounds (tie : Tie)
    (h : x.Rounds (x.below s * 10 ^ s) ∨ x.Rounds ((x.below s + 1 : Nat) * 10 ^ s)) :
    ∃ t, x.onGrid? tie s = some t := by
  rw [← inside_iff, ← inside_iff] at h
  rw [onGrid?_eq]
  split
  case h_1 hbelow habove => simp [hbelow, habove] at h
  case h_2 | h_3 => exact ⟨_, rfl⟩
  case h_4 => split <;> exact ⟨_, rfl⟩

/-! ## Seventeen digits -/

/-- A step that is small against the double meets the numbers that round to it. -/
theorem exists_onGrid? (tie : Tie) (hx : 0 < x.significand) (hstep : (10 : ℚ) ^ s * 10 ^ 16 ≤ x.magnitude) :
    ∃ t, x.onGrid? tie s = some t := by
  have hbelow := x.below_le s
  have habove := x.lt_below_succ s
  have hquarter := x.quarter_pos
  push_cast at habove
  refine exists_onGrid?_of_rounds tie ?_
  have hhigh : (x.highQuarters : ℚ) * x.quarter = x.magnitude + 2 * x.quarter := by
    rw [magnitude, highQuarters]
    push_cast
    ring
  by_cases hnarrow : x.narrowBelow = true
  · have hlow : (x.lowQuarters : ℚ) * x.quarter = x.magnitude - x.quarter := by
      rw [magnitude, lowQuarters, if_pos hnarrow, Nat.cast_sub (by omega)]
      push_cast
      ring
    have hstep : (10 : ℚ) ^ s < 2 * x.quarter := by
      rw [magnitude, (x.narrowBelow_iff.mp hnarrow).1, pow2_52] at hstep
      push_cast at hstep
      linarith
    refine .inr (rounds_of_lt ?_ ?_)
    · rw [hlow]; push_cast; linarith
    · rw [hhigh]; push_cast; linarith
  · have hlow : (x.lowQuarters : ℚ) * x.quarter = x.magnitude - 2 * x.quarter := by
      rw [magnitude, lowQuarters, if_neg hnarrow, Nat.cast_sub (by omega)]
      push_cast
      ring
    have hsignificand : (x.significand : ℚ) ≤ 9007199254740992 := by
      have := x.significand_lt
      rw [pow2_52] at this
      exact_mod_cast this.le
    have hmagnitude : x.magnitude ≤ 4 * 9007199254740992 * x.quarter := by
      rw [magnitude]
      push_cast
      exact mul_le_mul_of_nonneg_right (by linarith) hquarter.le
    -- The nearer of the two multiples is within half a step.
    by_cases hnear : x.magnitude - x.below s * 10 ^ s ≤ 10 ^ s / 2
    · refine .inl (rounds_of_lt ?_ ?_)
      · rw [hlow]; linarith
      · rw [hhigh]; linarith
    · refine .inr (rounds_of_lt ?_ ?_)
      · rw [hlow]; push_cast; linarith
      · rw [hhigh]; push_cast; linarith

end Double

/-! ## Decimal digits -/

theorem zpow_decimalPoint_le {m : Nat} (hm : 0 < m) (e : Int) :
    (10 : ℚ) ^ (decimalPoint m e - 1) ≤ m * 2 ^ e := by
  have hn : 0 < m * pow2 e.toNat := Nat.mul_pos hm (pow2_pos _)
  have hd : 0 < pow2 (-e).toNat := pow2_pos _
  have hd' : (0 : ℚ) < pow2 (-e).toNat := Nat.cast_pos.mpr hd
  have hquotient : (m * 2 ^ e : ℚ) = (m * pow2 e.toNat : Nat) / (pow2 (-e).toNat : Nat) := by
    rw [eq_div_iff hd'.ne']
    have hscale := zpow_mul_pow_toNat (two_ne_zero (α := ℚ)) e
    simp only [pow2, Nat.pow_eq, Nat.cast_mul, Nat.cast_pow, Nat.cast_ofNat, mul_assoc, hscale]
  rw [hquotient, le_div_iff₀ hd', decimalPoint]
  generalize m * pow2 e.toNat = n at hn
  generalize pow2 (-e).toNat = d at hd
  split
  · have hfloor := pow10_le_of_pos (Nat.div_pos ‹_› hd)
    have hcast : ((digitCount (n / d) : Nat) : Int) - 1 = (digitCount (n / d) - 1 : Nat) := by
      have := digitCount_pos (n / d)
      omega
    rw [hcast, zpow_natCast]
    calc (10 ^ (digitCount (n / d) - 1) : ℚ) * d ≤ ((n / d * d : Nat) : ℚ) := by
          rw [Nat.cast_mul]
          refine mul_le_mul_of_nonneg_right ?_ (Nat.cast_nonneg _)
          exact_mod_cast hfloor
      _ ≤ n := Nat.cast_le.mpr (Nat.div_mul_le_self n d)
  · have hceil : d ≤ pow10 (digitCount (d / n)) * n :=
      (Nat.lt_mul_of_div_lt (lt_pow10_digitCount _) hn).le
    have hexponent : 1 - (digitCount (d / n) : Int) - 1 = -(digitCount (d / n) : Int) := by omega
    rw [hexponent, zpow_neg, zpow_natCast, inv_mul_le_iff₀ (by positivity)]
    exact_mod_cast hceil

/-- A search along the first numbers stops at or before the first one known to be good. -/
theorem findSome?_range {β : Type} {f : Nat → Option β} {n i : Nat} {b : β} (hi : i < n)
    (hf : f i = some b) : ∃ k ≤ i, ∃ c, f k = some c ∧ (List.range n).findSome? f = some c := by
  cases hfound : (List.range n).findSome? f with
  | none =>
    rw [List.findSome?_eq_none_iff.mp hfound i (List.mem_range.mpr hi)] at hf
    cases hf
  | some c =>
    obtain ⟨before, k, after, hsplit, hk, hnone⟩ := List.findSome?_eq_some_iff.mp hfound
    refine ⟨k, ?_, c, hk, rfl⟩
    have hmem : i ∈ before ++ k :: after := hsplit ▸ List.mem_range.mpr hi
    have hsorted : (before ++ k :: after).Pairwise (· < ·) := hsplit ▸ List.pairwise_lt_range
    rcases List.mem_append.mp hmem with hbefore | hafter
    · rw [hnone i hbefore] at hf
      cases hf
    · rcases List.mem_cons.mp hafter with rfl | hafter
      · exact Nat.le_refl i
      · have hrest := (List.pairwise_append.mp hsorted).2.1
        exact (List.rel_of_pairwise_cons hrest hafter).le

theorem stripZerosUpTo_value (fuel n : Nat) (e : Int) :
    ((stripZerosUpTo fuel n e).1 : ℚ) * 10 ^ (stripZerosUpTo fuel n e).2 = n * 10 ^ e := by
  induction fuel generalizing n e with
  | zero => rfl
  | succ fuel ih =>
    rw [stripZerosUpTo]
    split
    · obtain ⟨k, rfl⟩ := Nat.dvd_of_mod_eq_zero ‹n % 10 = 0›
      rw [ih, Nat.mul_div_cancel_left k (by decide), zpow_add_one₀ (by norm_num)]
      push_cast
      ring
    · rfl

theorem stripZeros_value (n : Nat) (e : Int) :
    ((stripZeros n e).1 : ℚ) * 10 ^ (stripZeros n e).2 = n * 10 ^ e := by
  unfold stripZeros
  split
  · simp [*]
  · exact stripZerosUpTo_value _ n e

namespace Double

variable {x y : Double}

/-- The last place of the first `n + 1` digits. -/
def place (x : Double) (n : Nat) : Int := decimalPoint x.significand x.exponent - (n + 1 : Nat)

/-- The digits that are tried, from the shortest on. -/
def candidate (x : Double) (tie : Tie) (n : Nat) : Option (Nat × Int) :=
  (x.onGrid? tie (x.place n)).map fun t => (t, x.place n)

theorem shortest_eq (x : Double) (tie : Tie) : x.shortest tie =
    let found := ((List.range 17).findSome? (x.candidate tie)).getD (0, 0)
    stripZeros found.1 found.2 := rfl

/-- Where some digits are enough, the shortest digits are no longer than they are. -/
theorem exists_shortest {n : Nat} (hn : n < 17) (h : x.onGrid? tie (x.place n) = some t) :
    ∃ k ≤ n, ∃ t, x.onGrid? tie (x.place k) = some t ∧
      ((x.shortest tie).1 * 10 ^ (x.shortest tie).2 : ℚ) = t * 10 ^ x.place k := by
  have hcandidate : x.candidate tie n = some (t, x.place n) := by rw [candidate, h]; rfl
  obtain ⟨k, hk, digits, hdigits, hfound⟩ := findSome?_range hn hcandidate
  obtain ⟨u, hu, rfl⟩ := Option.map_eq_some_iff.mp hdigits
  refine ⟨k, hk, u, hu, ?_⟩
  rw [shortest_eq, hfound]
  exact stripZeros_value u (x.place k)

/-- The shortest digits of a positive double round to it. -/
theorem rounds_shortest (hx : 0 < x.significand) (tie : Tie) :
    x.Rounds ((x.shortest tie).1 * 10 ^ (x.shortest tie).2) := by
  have hstep : (10 : ℚ) ^ x.place 16 * 10 ^ 16 ≤ x.magnitude := by
    rw [magnitude_eq, ← zpow_natCast, ← zpow_add₀ (by norm_num)]
    convert zpow_decimalPoint_le hx x.exponent using 2
    rw [place]
    push_cast
    ring
  obtain ⟨t, ht⟩ := exists_onGrid? tie hx hstep
  obtain ⟨k, -, u, hu, hvalue⟩ := exists_shortest (by decide) ht
  rw [hvalue]
  exact rounds_of_onGrid? hu

/-! ## Order of digits -/

/-- The number that the shortest digits of a finite double stand for, without its sign. -/
def digits (x : Double) : ℚ :=
  if x.significand = 0 then 0 else (x.shortest .up).1 * 10 ^ (x.shortest .up).2

theorem magnitude_nonneg (x : Double) : 0 ≤ x.magnitude :=
  mul_nonneg (Nat.cast_nonneg _) x.quarter_pos.le

theorem magnitude_pos_iff : 0 < x.magnitude ↔ 0 < x.significand := by
  rw [magnitude, mul_pos_iff_of_pos_right x.quarter_pos, Nat.cast_pos]
  omega

theorem rounds_digits (hx : 0 < x.significand) : x.Rounds x.digits := by
  rw [digits, if_neg hx.ne']
  exact rounds_shortest hx .up

theorem digits_pos (hx : 0 < x.significand) : 0 < x.digits := (rounds_digits hx).pos hx

theorem digits_lt (h : x.magnitude < y.magnitude) : x.digits < y.digits := by
  have hy : 0 < y.significand := magnitude_pos_iff.mp (x.magnitude_nonneg.trans_lt h)
  by_cases hx : x.significand = 0
  · rw [digits, if_pos hx]
    exact digits_pos hy
  · exact (rounds_digits (Nat.pos_of_ne_zero hx)).lt h (rounds_digits hy)

/-- The digits are chosen by the significand and the exponent alone. -/
theorem digits_eq (h : x.magnitude = y.magnitude) : x.digits = y.digits := by
  have hexponent : x.exponent = y.exponent :=
    (exponent_le_of_magnitude_le h.le).antisymm (exponent_le_of_magnitude_le h.ge)
  have hsignificand : x.significand = y.significand := by
    have hquarter : x.quarter = y.quarter := by rw [quarter, hexponent, quarter]
    rw [magnitude, magnitude, hquarter, mul_left_inj' y.quarter_pos.ne', Nat.cast_inj] at h
    omega
  have hnarrow : x.narrowBelow = y.narrowBelow := by
    rw [Bool.eq_iff_iff, narrowBelow_iff, narrowBelow_iff, hsignificand, hexponent]
  have hgrid : ∀ s, x.onGrid? .up s = y.onGrid? .up s := by
    intro s
    simp only [onGrid?, hexponent, hsignificand, hnarrow]
  simp only [digits, shortest, hgrid, hexponent, hsignificand]

theorem digits_lt_iff : x.digits < y.digits ↔ x.magnitude < y.magnitude := by
  rcases lt_trichotomy x.magnitude y.magnitude with h | h | h
  · exact iff_of_true (digits_lt h) h
  · exact iff_of_false (digits_eq h).not_lt h.not_lt
  · exact iff_of_false (digits_lt h).asymm h.asymm

theorem digits_pos_iff : 0 < x.digits ↔ 0 < x.magnitude := by
  rw [magnitude_pos_iff]
  refine ⟨fun h => Nat.pos_of_ne_zero fun hzero => ?_, digits_pos⟩
  rw [digits, if_pos hzero] at h
  exact h.false

theorem digits_nonneg (x : Double) : 0 ≤ x.digits := by
  by_cases hx : x.significand = 0
  · rw [digits, if_pos hx]
  · exact (digits_pos (Nat.pos_of_ne_zero hx)).le

/-! ## Signs -/

/-- A size with its sign. -/
def withSign (negative : Bool) (q : ℚ) : ℚ := if negative then -q else q

theorem neg_lt_iff_of_nonneg {p q : ℚ} (hp : 0 ≤ p) (hq : 0 ≤ q) : -p < q ↔ 0 < p ∨ 0 < q := by
  constructor
  · intro h
    by_contra hzero
    rw [not_or, not_lt, not_lt] at hzero
    linarith
  · rintro (h | h) <;> linarith

theorem withSign_lt_iff {p q p' q' : ℚ} (a b : Bool) (hp : 0 ≤ p) (hq : 0 ≤ q) (hp' : 0 ≤ p')
    (hq' : 0 ≤ q') (hpos : 0 < p ↔ 0 < p') (hpos' : 0 < q ↔ 0 < q') (hlt : p < q ↔ p' < q')
    (hgt : q < p ↔ q' < p') : withSign a p < withSign b q ↔ withSign a p' < withSign b q' := by
  cases a <;> cases b
  case false.false => exact hlt
  case true.true => exact neg_lt_neg_iff.trans (hgt.trans neg_lt_neg_iff.symm)
  case true.false =>
    exact (neg_lt_iff_of_nonneg hp hq).trans
      ((or_congr hpos hpos').trans (neg_lt_iff_of_nonneg hp' hq').symm)
  case false.true =>
    exact iff_of_false (not_lt.mpr ((neg_nonpos.mpr hq).trans hp))
      (not_lt.mpr ((neg_nonpos.mpr hq').trans hp'))

theorem withSign_digits_lt_iff (x y : Double) :
    withSign x.negative x.digits < withSign y.negative y.digits ↔
      withSign x.negative x.magnitude < withSign y.negative y.magnitude :=
  withSign_lt_iff _ _ x.digits_nonneg y.digits_nonneg x.magnitude_nonneg y.magnitude_nonneg
    digits_pos_iff digits_pos_iff digits_lt_iff digits_lt_iff

theorem size_eq_magnitude (h : x.isFinite = true) :
    x.size = .finite (withSign x.negative x.magnitude) := by
  rw [size_of_finite h, magnitude_eq, signed, withSign]
  cases x.negative <;> simp

theorem size_signed (negative : Bool) (n : Nat) (scale : Int) :
    (Wide.finite (if negative then -(n : Int) else n) scale).size =
      .finite (withSign negative (n * 10 ^ (-scale))) := by
  cases negative <;> simp [Wide.size, withSign]

/-- An integer that is written with one digit after the point. -/
theorem size_shifted (negative : Bool) (n : Nat) {e : Int} (he : 0 ≤ e) :
    (Wide.finite (if negative then -((n * pow10 (e + 1).toNat : Nat) : Int)
      else (n * pow10 (e + 1).toNat : Nat)) 1).size = .finite (withSign negative (n * 10 ^ e)) := by
  have hshift : (n * pow10 (e + 1).toNat : Nat) * (10 : ℚ) ^ (-1 : Int) = n * 10 ^ e := by
    obtain ⟨k, rfl⟩ := Int.eq_ofNat_of_zero_le he
    rw [Int.toNat_natCast_add_one, pow10_succ, zpow_natCast, zpow_neg_one]
    push_cast [pow10, Nat.pow_eq]
    ring
  rw [size_signed, hshift]

theorem ofDouble_of_finite (h : x.isFinite = true) :
    let digits := (x.shortest .up).1
    let e := (x.shortest .up).2
    Wide.ofDouble x = if x.isZero then .finite 0 1
      else if 0 ≤ e ∧ e + digitCount digits - 1 < 16 then
        .finite (if x.negative then -((digits * pow10 (e + 1).toNat : Nat) : Int)
          else (digits * pow10 (e + 1).toNat : Nat)) 1
      else .finite (if x.negative then -(digits : Int) else digits) (-e) := by
  have hfield : x.exponentField ≠ 2047 := by simpa [isFinite] using h
  rw [Wide.ofDouble, if_neg (by simp [isNaN, hfield]), if_neg (by simp [isInfinite, hfield])]
  rfl

theorem size_ofDouble (h : x.isFinite = true) :
    (Wide.ofDouble x).size = .finite (withSign x.negative x.digits) := by
  have hzero : x.isZero = true ↔ x.significand = 0 := by simp [isZero, h]
  rw [ofDouble_of_finite h, digits]
  by_cases hx : x.significand = 0
  · rw [if_pos (hzero.mpr hx), if_pos hx]
    simp [Wide.size, withSign]
  · rw [if_neg (hzero.not.mpr hx), if_neg hx]
    split
    case isTrue hplain => exact size_shifted _ _ hplain.1
    case isFalse => rw [size_signed, neg_neg]

theorem size_ofDouble_of_not_finite (h : ¬ x.isFinite = true) : (Wide.ofDouble x).size = x.size := by
  have hfield : x.exponentField = 2047 := by simpa [isFinite] using h
  rw [size, if_neg h, Wide.ofDouble]
  by_cases hnan : x.isNaN = true
  · rw [if_pos hnan, if_pos hnan, Wide.size]
  · have hinfinite : x.isInfinite = true := by simpa [isNaN, isInfinite, hfield] using hnan
    rw [if_neg hnan, if_neg hnan, if_pos hinfinite, Wide.size]

theorem bracket_size_ofDouble (x : Double) : (Wide.ofDouble x).size.bracket = x.size.bracket := by
  by_cases h : x.isFinite = true
  · rw [size_ofDouble h, size_of_finite h, Size.bracket, Size.bracket]
  · rw [size_ofDouble_of_not_finite h]

/-- Doubles are ordered as their shortest digits. -/
theorem cmp_eq_digits (x y : Double) :
    x.cmp y = (Wide.ofDouble x).size.cmp (Wide.ofDouble y).size := by
  rw [cmp_eq_size]
  by_cases h : x.isFinite = true ∧ y.isFinite = true
  · rw [size_eq_magnitude h.1, size_eq_magnitude h.2, size_ofDouble h.1, size_ofDouble h.2]
    exact compare_eq_of_lt_iff (withSign_digits_lt_iff x y).symm (withSign_digits_lt_iff y x).symm
  · rw [← bracket_eq_two_iff, ← bracket_eq_two_iff] at h
    rw [Size.cmp_eq_compare h, Size.cmp_eq_compare, bracket_size_ofDouble, bracket_size_ofDouble]
    rwa [bracket_size_ofDouble, bracket_size_ofDouble]

end Double

end DocUpdate
