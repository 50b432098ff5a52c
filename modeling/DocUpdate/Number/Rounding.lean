import DocUpdate.Number.Power

/-!
# Rounding and digits of natural numbers

Every inexact result in this library is a quotient of two naturals rounded once,
to the nearest integer with a half going to the even neighbour. The other half of
the module counts and strips decimal digits.
-/

namespace DocUpdate

/-! ## Nearest quotient -/

/-- The integer nearest to `n / d`. A half goes to the even neighbour. -/
def roundHalfEven (n d : Nat) : Nat :=
  let q := n / d
  let r := n % d
  if 2 * r < d then q else if d < 2 * r then q + 1 else q + q % 2

/-- The largest `k` with `2 ^ k ≤ n / d`, for positive `n` and `d`. -/
def floorLog2 (n d : Nat) : Int :=
  let k : Int := n.log2 - d.log2
  if d * pow2 k.toNat ≤ n * pow2 (-k).toNat then k else k - 1

/-! ## Decimal digits -/

/-- How many decimal digits `n` has. Zero has one. -/
def digitCount (n : Nat) : Nat := if n < 10 then 1 else digitCount (n / 10) + 1

theorem digitCount_pos (n : Nat) : 0 < digitCount n := by
  unfold digitCount
  split <;> omega

theorem digitCount_of_lt_ten {n : Nat} (h : n < 10) : digitCount n = 1 := by
  rw [digitCount, if_pos h]

theorem digitCount_of_ten_le {n : Nat} (h : 10 ≤ n) : digitCount n = digitCount (n / 10) + 1 := by
  rw [digitCount, if_neg (by omega)]

theorem lt_pow10_digitCount (n : Nat) : n < pow10 (digitCount n) := by
  fun_induction digitCount n with
  | case1 n h => exact h
  | case2 n h ih => rw [pow10_succ]; omega

theorem pow10_le_of_pos {n : Nat} (h : 0 < n) : pow10 (digitCount n - 1) ≤ n := by
  fun_induction digitCount n with
  | case1 n hn => exact h
  | case2 n hn ih =>
    have ih := ih (by omega)
    have hpos := digitCount_pos (n / 10)
    have e : digitCount (n / 10) + 1 - 1 = (digitCount (n / 10) - 1) + 1 := by omega
    rw [e, pow10_succ]
    omega

theorem digitCount_le_of_lt {n k : Nat} (hk : 0 < k) (h : n < pow10 k) : digitCount n ≤ k := by
  rcases Nat.eq_zero_or_pos n with rfl | hn
  · rw [digitCount_of_lt_ten (by decide)]
    exact hk
  · refine Nat.le_of_not_lt fun hlt => ?_
    have hle : pow10 k ≤ pow10 (digitCount n - 1) := Nat.pow_le_pow_right (by decide) (by omega)
    have := pow10_le_of_pos hn
    omega

theorem lt_pow10_of_digitCount_le {n k : Nat} (h : digitCount n ≤ k) : n < pow10 k :=
  Nat.lt_of_lt_of_le (lt_pow10_digitCount n) (Nat.pow_le_pow_right (by decide) h)

theorem digitCount_pow10 (k : Nat) : digitCount (pow10 k) = k + 1 := by
  induction k with
  | zero => exact digitCount_of_lt_ten (by decide)
  | succ k ih =>
    have hpos := pow10_pos k
    rw [digitCount_of_ten_le (by rw [pow10_succ]; omega), pow10_succ,
      Nat.mul_div_cancel _ (by decide), ih]

/-- Divides out factors of ten, counting them, at most `fuel` times. -/
def stripZerosUpTo : Nat → Nat → Int → Nat × Int
  | 0, n, e => (n, e)
  | fuel + 1, n, e => if n % 10 = 0 then stripZerosUpTo fuel (n / 10) (e + 1) else (n, e)

/-- Rewrites `n · 10 ^ e` without trailing zeros in `n`. -/
def stripZeros (n : Nat) (e : Int) : Nat × Int :=
  if n = 0 then (0, e) else stripZerosUpTo (digitCount n) n e

/-! ## Comparing scaled integers -/

/-- Compares `m₁ · b ^ e₁` with `m₂ · b ^ e₂` exactly, at the smaller exponent. -/
def compareScaled (b : Nat) (m₁ e₁ m₂ e₂ : Int) : Ordering :=
  let e := min e₁ e₂
  compare (m₁ * b.pow (e₁ - e).toNat) (m₂ * b.pow (e₂ - e).toNat)

end DocUpdate
