import Mathlib.Algebra.Order.Ring.Cast
import Mathlib.Data.Sign.Basic
import DocUpdate.Proofs.Value.Order
import DocUpdate.Update.Reader

/-!
# Which end is popped

The sign of the operand decides, and the sign of a number shows in its parts. To find it, the
operand is compared with zero in the order of all numbers, where NaN is below the others. A double
that is NaN is kept out of this comparison and refused like zero, a decimal that is NaN is not.
-/

namespace DocUpdate

/-! ## Signs -/

/-- The sign of a size. NaN has none. -/
def Size.sign? : Size → Option SignType
  | nan => none
  | infinity negative => some (if negative then -1 else 1)
  | finite q => some (SignType.sign q)

/-- Where a size of this sign stands to zero. What has no sign is less. -/
def sideOfZero : Option SignType → Ordering
  | none | some .neg => .lt
  | some .zero => .eq
  | some .pos => .gt

theorem Size.cmp_zero (s : Size) : s.cmp (finite 0) = sideOfZero s.sign? := by
  cases s with
  | nan => rfl
  | infinity negative => cases negative <;> rfl
  | finite q =>
    rw [cmp, sign?]
    rcases lt_trichotomy q 0 with h | h | h
    · rw [compare_lt_iff_lt.mpr h, sign_neg h]
      rfl
    · rw [compare_eq_iff_eq.mpr h, sign_eq_zero_iff.mpr h]
      rfl
    · rw [compare_gt_iff_gt.mpr h, sign_pos h]
      rfl

/-- The sign of a double. A zero has no sign bit that counts. -/
def Double.sign? (x : Double) : Option SignType :=
  if x.isNaN then none else if x.isZero then some 0 else some (if x.negative then -1 else 1)

/-- The sign of a decimal. The exponent of a zero does not matter. -/
def Decimal128.sign? : Decimal128 → Option SignType
  | nan _ _ => none
  | infinity negative => some (if negative then -1 else 1)
  | finite d => some (if d.coefficient = 0 then 0 else if d.negative then -1 else 1)

/-- The sign of a number. -/
def Number.sign? : Number → Option SignType
  | int n => some (if n = 0 then 0 else if n < 0 then -1 else 1)
  | double x => x.sign?
  | decimal d => d.sign?

/-- The sign of a value that is a number. -/
def Value.sign? (v : Value) : Option SignType := v.number?.bind Number.sign?

theorem Double.sign?_eq_none_iff {x : Double} : x.sign? = none ↔ x.isNaN = true := by
  unfold sign?
  by_cases h : x.isNaN = true
  · simp [h]
  · rw [if_neg h]
    split <;> simp [h]

/-- Only a number that is NaN has no sign. -/
theorem Value.of_sign?_eq_none {v : Value} (h : v.sign? = none) : v.number? = none ∨
    (∃ x, v = double x ∧ x.isNaN = true) ∨
    ∃ negative signalling, v = decimal (.nan negative signalling) := by
  cases v
  case double x => exact .inr (.inl ⟨x, rfl, Double.sign?_eq_none_iff.mp h⟩)
  case decimal d =>
    cases d with
    | nan negative signalling => exact .inr (.inr ⟨negative, signalling, rfl⟩)
    | _ => cases h
  all_goals first | exact .inl rfl | cases h

/-! ## The sign shows in the parts -/

/-- A magnitude with a sign bit, scaled. -/
theorem sign_scaled (negative : Bool) (m : Nat) {c : ℚ} (hc : 0 < c) :
    SignType.sign ((if negative then -(m : ℚ) else m) * c) =
      if m = 0 then 0 else if negative then -1 else 1 := by
  rw [sign_mul, sign_pos hc, mul_one]
  by_cases hm : m = 0
  · simp [hm]
  · have hpos : (0 : ℚ) < m := by exact_mod_cast Nat.pos_of_ne_zero hm
    cases negative <;> simp [hm, sign_pos hpos, Left.sign_neg]

theorem sign_int (n : Int) :
    SignType.sign (n : ℚ) = if n = 0 then 0 else if n < 0 then -1 else 1 := by
  rcases lt_trichotomy n 0 with h | rfl | h
  · rw [sign_neg (by exact_mod_cast h), if_neg h.ne, if_pos h]
  · rw [Int.cast_zero, sign_zero, if_pos rfl]
  · rw [sign_pos (by exact_mod_cast h), if_neg h.ne', if_neg h.not_gt]

theorem Double.sign?_size (x : Double) : x.size.sign? = x.sign? := by
  unfold size sign?
  by_cases hfinite : x.isFinite = true
  · have hnan : x.isNaN = false := by simp_all [isFinite, isNaN]
    have hzero : x.isZero = (x.significand == 0) := by rw [isZero, hfinite, Bool.true_and]
    have hsigned : (x.signed : ℚ) =
        if x.negative then -(x.significand : ℚ) else x.significand := by
      rw [signed]
      split <;> simp
    have hsign := sign_scaled x.negative x.significand (zpow_pos two_pos x.exponent)
    rw [if_pos hfinite, if_neg (by simp [hnan]), hzero, hsigned, Size.sign?, hsign]
    simp only [beq_iff_eq]
    split <;> rfl
  · have hzero : x.isZero = false := by simp [isZero, hfinite]
    rw [if_neg hfinite, hzero]
    split <;> rfl

theorem Decimal128.sign?_size (d : Decimal128) : d.size.sign? = d.sign? := by
  cases d with
  | nan | infinity => rfl
  | finite d => exact congrArg some (sign_scaled _ _ (zpow_pos (by norm_num) _))

theorem Number.sign?_size (x : Number) : x.size.sign? = x.sign? := by
  cases x with
  | int n => exact congrArg some (sign_int n)
  | double x => exact x.sign?_size
  | decimal d => exact d.sign?_size

/-! ## The operand -/

theorem Value.cmp_zero {v : Value} {x : Number} (hx : v.number? = some x) :
    v.cmp (.int32 0) = sideOfZero v.sign? := by
  -- Zero is an integer, and integers are compared with all other numbers by size.
  have hmixed : ¬ x.Mixed (.int 0) := by cases x <;> exact id
  have hsize : (Number.int 0).size = .finite 0 := congrArg Size.finite Int.cast_zero
  rw [cmp_of_number hx (y := .int 0) rfl, Number.cmp_eq_size hmixed, hsize, Size.cmp_zero,
    Number.sign?_size, sign?, hx]
  rfl

namespace Action

variable (path : Path) {operand : Value}

theorem readPop_of_not_number (h : operand.number? = none) :
    readPop path operand = refuse .pop path (.popOperand operand) := by
  cases operand <;> first | rfl | cases h

theorem readPop_of_double_nan {x : Double} (h : x.isNaN = true) :
    readPop path (.double x) = refuse .pop path (.popOperand (.double x)) := by
  unfold readPop
  split
  · rename_i hguard
    rw [Bool.and_eq_true, Bool.not_eq_true'] at hguard
    cases h.symm.trans hguard.2
  · rfl

theorem readPop_of_number {x : Number} (hx : operand.number? = some x)
    (hnan : ∀ y, operand = .double y → y.isNaN = false) :
    readPop path operand = match sideOfZero operand.sign? with
      | .gt => .ok .last
      | .lt => .ok .first
      | .eq => refuse .pop path (.popOperand operand) := by
  rw [← Value.cmp_zero hx]
  apply if_pos
  rw [Bool.and_eq_true, Bool.not_eq_true']
  cases operand
  case double y => exact ⟨rfl, hnan y rfl⟩
  all_goals cases hx
  all_goals exact ⟨rfl, rfl⟩

theorem readPop_of_decimal_nan (negative signalling : Bool) :
    readPop path (.decimal (.nan negative signalling)) = .ok .first := rfl

/-- Apart from that, what has no sign is refused like a zero. -/
theorem readPop_of_sign
    (h : ∀ negative signalling, operand ≠ .decimal (.nan negative signalling)) :
    readPop path operand = match operand.sign? with
      | some .pos => .ok .last
      | some .neg => .ok .first
      | _ => refuse .pop path (.popOperand operand) := by
  cases hsign : operand.sign? with
  | none =>
    rcases Value.of_sign?_eq_none hsign with hx | ⟨x, rfl, hnan⟩ | ⟨negative, signalling, hnan⟩
    · exact readPop_of_not_number path hx
    · exact readPop_of_double_nan path hnan
    · exact absurd hnan (h negative signalling)
  | some sign =>
    obtain ⟨x, hx, -⟩ := Option.bind_eq_some_iff.mp hsign
    have hnan : ∀ y, operand = .double y → y.isNaN = false := by
      rintro y rfl
      rw [← Bool.not_eq_true, ← Double.sign?_eq_none_iff]
      exact ne_of_eq_of_ne hsign nofun
    rw [readPop_of_number path hx hnan, hsign]
    cases sign <;> rfl

/-- Positive numbers pop the last item and negative ones the first. Everything else is refused,
except for the decimals that are NaN. They pop the first item. -/
theorem readPop_by_sign (path : Path) (operand : Value) :
    (readPop path operand = .ok .last ↔ operand.sign? = some 1) ∧
    (readPop path operand = .ok .first ↔ operand.sign? = some (-1) ∨
      ∃ negative signalling, operand = .decimal (.nan negative signalling)) ∧
    (readPop path operand = .error (.operand .pop path.text (.popOperand operand)) ↔
      (operand.sign? = none ∨ operand.sign? = some 0) ∧
        ∀ negative signalling, operand ≠ .decimal (.nan negative signalling)) := by
  by_cases hnan : ∃ negative signalling, operand = .decimal (.nan negative signalling)
  · obtain ⟨negative, signalling, rfl⟩ := hnan
    have hsign : (Value.decimal (.nan negative signalling)).sign? = none := rfl
    rw [readPop_of_decimal_nan, hsign]
    simp
  · simp only [hnan, or_false]
    push Not at hnan
    simp only [hnan, ne_eq, not_false_eq_true, implies_true, and_true]
    rw [readPop_of_sign path hnan]
    cases hsign : operand.sign? with
    | none => simp [refuse]
    | some sign => cases sign <;> simp [refuse]

/-- A decimal that is NaN has no sign, and the first item is popped. -/
theorem readPop_accepts_nan :
    let path : Path := ⟨⟨"a", by decide, by decide⟩, []⟩
    (Value.decimal (.nan false false)).sign? = none ∧
      readPop path (.decimal (.nan false false)) = .ok .first ∧
      readPop path (.double (.nan false)) = refuse .pop path (.popOperand (.double (.nan false))) :=
  ⟨rfl, rfl, rfl⟩

end Action

end DocUpdate
