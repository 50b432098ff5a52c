import Mathlib.Algebra.Order.Field.Rat
import Mathlib.Algebra.Order.Field.Power
import Mathlib.Data.Rat.Cast.Order
import DocUpdate.Proofs.Value.Lawful
import DocUpdate.Value.Order

/-!
# The size of a number

Every stored number has an exact size: a rational, an infinity, or NaN as one size below the
others. Numbers are ordered by size, except that a double is compared with a decimal by its
shortest digits.
-/

namespace DocUpdate

/-- What a number amounts to, exactly. The zeros have one size, and so has every NaN. -/
inductive Size where
  | nan
  | infinity (negative : Bool)
  | finite (q : ℚ)

namespace Size

/-- Where a size stands among NaN, the infinities and the rationals. -/
def bracket : Size → Nat
  | nan => 0
  | infinity true => 1
  | finite _ => 2
  | infinity false => 3

/-- The order of sizes. -/
def cmp : Size → Size → Ordering
  | finite p, finite q => compare p q
  | s, t => compare s.bracket t.bracket

theorem cmp_of_bracket_ne (s t : Size) (h : s.bracket ≠ t.bracket) :
    s.cmp t = compare s.bracket t.bracket := by
  cases s <;> cases t <;> first | rfl | exact absurd rfl h

/-- Outside the rationals only the bracket counts. -/
theorem cmp_eq_compare {s t : Size} (h : ¬ (s.bracket = 2 ∧ t.bracket = 2)) :
    s.cmp t = compare s.bracket t.bracket := by
  cases s <;> cases t <;> first | rfl | exact absurd ⟨rfl, rfl⟩ h

/-- A size that is alone in its bracket. -/
theorem lawfulAt_of_alone {s : Size} (h : ∀ t : Size, t.bracket = s.bracket → t = s) :
    LawfulAt cmp s := by
  refine .within (f := fun _ : Unit => s) cmp_of_bracket_ne ?_ ?_ ?_ (.of_unit ())
  · exact fun t ht => ⟨(), h t ht⟩
  · intro _ _
    cases s with
    | finite q => exact absurd (h (finite (q + 1)) rfl) (by simp)
    | _ => exact Nat.compare_eq_eq.mpr rfl
  · exact fun _ _ _ => rfl

theorem lawfulAt (s : Size) : LawfulAt cmp s := by
  cases s with
  | nan =>
    refine lawfulAt_of_alone fun t ht => ?_
    rcases t with _ | ⟨_ | _⟩ | q <;> first | rfl | cases ht
  | infinity negative =>
    refine lawfulAt_of_alone fun t ht => ?_
    cases negative <;> rcases t with _ | ⟨_ | _⟩ | q <;> first | rfl | cases ht
  | finite q =>
    refine .within cmp_of_bracket_ne ?_ (fun _ _ => rfl) (fun _ _ => finite.inj) (.of_compare q)
    rintro (_ | ⟨_ | _⟩ | q) ht <;> first | exact ⟨_, rfl⟩ | cases ht

theorem cmp_self (s : Size) : s.cmp s = .eq := ((lawfulAt s).eq_iff s).mpr rfl

instance : Std.TransCmp cmp := transCmp_of_lawfulAt lawfulAt

instance : Std.LawfulEqCmp cmp := lawfulEqCmp_of_lawfulAt lawfulAt

instance : LinearOrder Size where
  le s t := s.cmp t ≠ .gt
  le_refl s := by rw [cmp_self]; decide
  le_trans s t u hst htu := Ordering.isLE_iff_ne_gt.mp
    (Std.TransCmp.isLE_trans (Ordering.isLE_iff_ne_gt.mpr hst) (Ordering.isLE_iff_ne_gt.mpr htu))
  le_antisymm s t hst hts := Std.LawfulEqCmp.eq_of_compare (Std.OrientedCmp.isLE_antisymm
    (Ordering.isLE_iff_ne_gt.mpr hst) (Ordering.isLE_iff_ne_gt.mpr hts))
  le_total s t := by
    rw [(lawfulAt s).swap t]
    cases s.cmp t <;> decide
  toDecidableLE _ _ := inferInstanceAs (Decidable (_ ≠ _))

theorem cmp_ne_gt_iff {s t : Size} : s.cmp t ≠ .gt ↔ s ≤ t := Iff.rfl

end Size

/-! ## Scaled integers -/

theorem compare_eq_of_lt_iff {α β : Type} [LinearOrder α] [LinearOrder β] {a b : α} {c d : β}
    (hlt : a < b ↔ c < d) (hgt : b < a ↔ d < c) : compare a b = compare c d := by
  rcases lt_trichotomy a b with h | h | h
  · rw [compare_lt_iff_lt.mpr h, compare_lt_iff_lt.mpr (hlt.mp h)]
  · have h' : c = d := le_antisymm (not_lt.mp (hgt.not.mp h.not_gt)) (not_lt.mp (hlt.not.mp h.not_lt))
    rw [compare_eq_iff_eq.mpr h, compare_eq_iff_eq.mpr h']
  · rw [compare_gt_iff_gt.mpr h, compare_gt_iff_gt.mpr (hgt.mp h)]

theorem compare_cast_mul {c : ℚ} (hc : 0 < c) (m n : Int) :
    compare m n = compare (m * c) (n * c) := by
  refine compare_eq_of_lt_iff ?_ ?_ <;> rw [mul_lt_mul_iff_left₀ hc, Int.cast_lt]

theorem compareScaled_eq {b : Nat} (hb : 0 < b) (m₁ e₁ m₂ e₂ : Int) :
    compareScaled b m₁ e₁ m₂ e₂ = compare (m₁ * (b : ℚ) ^ e₁) (m₂ * (b : ℚ) ^ e₂) := by
  have hb' : (b : ℚ) ≠ 0 := by exact_mod_cast hb.ne'
  -- Both sides are taken at the smaller exponent.
  have scaled : ∀ m e f : Int, f ≤ e →
      (m : ℚ) * (b : ℚ) ^ e = ((m * (b.pow (e - f).toNat : Nat) : Int) : ℚ) * (b : ℚ) ^ f := by
    intro m e f hf
    have he : e = ((e - f).toNat : Int) + f := by omega
    conv_lhs => rw [he, zpow_add₀ hb', zpow_natCast]
    simp [mul_assoc]
  rw [compareScaled, scaled m₁ e₁ _ (min_le_left e₁ e₂), scaled m₂ e₂ _ (min_le_right e₁ e₂)]
  exact compare_cast_mul (zpow_pos (by exact_mod_cast hb) _) _ _

/-! ## Doubles and decimals -/

/-- The exact value of a double. -/
def Double.size (x : Double) : Size :=
  if x.isFinite then .finite (x.signed * 2 ^ x.exponent)
  else if x.isNaN then .nan else .infinity x.negative

theorem Double.size_of_finite {x : Double} (h : x.isFinite = true) :
    x.size = .finite (x.signed * 2 ^ x.exponent) := if_pos h

theorem Double.bracket_size (x : Double) : x.size.bracket = x.bracket := by
  by_cases he : x.exponentField = 2047
  · by_cases hf : x.fractionField = 0 <;> cases hn : x.negative <;>
      simp [size, bracket, isFinite, isNaN, isInfinite, he, hf, hn, Size.bracket]
  · simp [size, bracket, isFinite, isNaN, isInfinite, he, Size.bracket]

/-- Only finite doubles are among the rationals. -/
theorem Double.bracket_eq_two_iff (x : Double) : x.size.bracket = 2 ↔ x.isFinite = true := by
  unfold size
  split
  · simp [*, Size.bracket]
  · split
    · simp [*, Size.bracket]
    · cases x.negative <;> simp [*, Size.bracket]

theorem Double.cmp_eq_size (x y : Double) : x.cmp y = x.size.cmp y.size := by
  by_cases h : x.isFinite = true ∧ y.isFinite = true
  · rw [cmp, if_pos (by simp [h]), size_of_finite h.1, size_of_finite h.2,
      compareScaled_eq (by decide)]
    simp [Size.cmp]
  · rw [cmp, if_neg (by simpa using h), ← bracket_size, ← bracket_size, Size.cmp_eq_compare]
    rwa [bracket_eq_two_iff, bracket_eq_two_iff]

theorem Double.cmpInt_eq_size (n : Int) (y : Double) :
    cmpInt n y = (Size.finite n).cmp y.size := by
  by_cases h : y.isFinite = true
  · rw [cmpInt, if_pos h, size_of_finite h, compareScaled_eq (by decide)]
    simp [Size.cmp]
  · rw [cmpInt, if_neg h, ← bracket_size, Size.cmp_eq_compare]
    · rfl
    · rw [bracket_eq_two_iff]
      exact fun hboth => h hboth.2

namespace Decimal128

/-- The exact value of a decimal. -/
def size : Decimal128 → Size
  | nan _ _ => .nan
  | infinity negative => .infinity negative
  | finite d =>
    .finite ((if d.negative then -(d.coefficient : ℚ) else d.coefficient) * 10 ^ d.exponent)

end Decimal128

namespace Wide

/-- The exact value of a decimal of any length. -/
def size : Wide → Size
  | nan => .nan
  | infinity negative => .infinity negative
  | finite m s => .finite (m * 10 ^ (-s))

theorem cmp_eq_size (a b : Wide) : a.cmp b = a.size.cmp b.size := by
  cases a with
  | finite m s =>
    cases b with
    | finite n t =>
      rw [cmp, compareScaled_eq (by decide)]
      simp [size, Size.cmp]
    | nan => rfl
    | infinity negative => cases negative <;> rfl
  | nan => rcases b with _ | ⟨_ | _⟩ | _ <;> rfl
  | infinity negative => cases negative <;> rcases b with _ | ⟨_ | _⟩ | _ <;> rfl

theorem size_ofDecimal (d : Decimal128) : (ofDecimal d).size = d.size := by
  cases d with
  | finite d =>
    have h : ofDecimal (.finite d) =
        .finite (if d.negative then -(d.coefficient : Int) else d.coefficient) (-d.exponent) := rfl
    rw [h, size, Decimal128.size, neg_neg]
    cases d.negative <;> simp
  | _ => rfl

theorem size_ofInt (n : Int) : (ofInt n).size = .finite n := by
  simp [ofInt, size]

end Wide

/-! ## Numbers -/

namespace Number

/-- The exact value of a number. -/
def size : Number → Size
  | int n => .finite n
  | double x => x.size
  | decimal d => d.size

/-- A double and a decimal. -/
def Mixed : Number → Number → Prop
  | double _, decimal _ | decimal _, double _ => True
  | _, _ => False

/-- Numbers are ordered by what they amount to, except a double and a decimal. -/
theorem cmp_eq_size {x y : Number} (h : ¬ x.Mixed y) : x.cmp y = x.size.cmp y.size := by
  cases x with
  | int m =>
    cases y with
    | int n =>
      have hcast := compare_cast_mul one_pos m n
      rwa [mul_one, mul_one] at hcast
    | double y => exact Double.cmpInt_eq_size m y
    | decimal e =>
      have hwide := Wide.cmp_eq_size (Wide.ofInt m) (Wide.ofDecimal e)
      rwa [Wide.size_ofInt, Wide.size_ofDecimal] at hwide
  | double x =>
    cases y with
    | int n =>
      rw [cmp, Double.cmpInt_eq_size]
      exact ((Size.lawfulAt _).swap _).symm
    | double y => exact Double.cmp_eq_size x y
    | decimal e => exact absurd trivial h
  | decimal d =>
    cases y with
    | int n =>
      have hwide := Wide.cmp_eq_size (Wide.ofDecimal d) (Wide.ofInt n)
      rwa [Wide.size_ofInt, Wide.size_ofDecimal] at hwide
    | double y => exact absurd trivial h
    | decimal e =>
      have hwide := Wide.cmp_eq_size (Wide.ofDecimal d) (Wide.ofDecimal e)
      rwa [Wide.size_ofDecimal, Wide.size_ofDecimal] at hwide

/-- The comparison is reversed with its arguments, whatever their types. -/
theorem cmp_swap (x y : Number) : y.cmp x = (x.cmp y).swap := by
  by_cases h : x.Mixed y
  · have hwide : x.cmp y = x.widen.cmp y.widen ∧ y.cmp x = y.widen.cmp x.widen := by
      cases x <;> cases y <;> first | exact ⟨rfl, rfl⟩ | exact h.elim
    rw [hwide.1, hwide.2, Wide.cmp_eq_size, Wide.cmp_eq_size]
    exact Std.OrientedCmp.eq_swap
  · have h' : ¬ y.Mixed x := by cases x <;> cases y <;> first | exact id | exact h
    rw [cmp_eq_size h, cmp_eq_size h']
    exact Std.OrientedCmp.eq_swap

end Number

end DocUpdate
