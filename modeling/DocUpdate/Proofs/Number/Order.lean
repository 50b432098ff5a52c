import DocUpdate.Proofs.Number.Digits
import DocUpdate.Proofs.Value.Preorder

/-!
# The order of numbers

A double is compared with an integer by its value and with a decimal by its digits. Among
numbers of two of the three types the comparison is a total preorder. With all three it is one
unless an integer and a decimal come between the value of a double and its digits.
-/

namespace DocUpdate

namespace Number

/-! ## Pairs -/

/-- An integer and a double. They are compared by value. -/
def ByValue : Number → Number → Prop
  | int _, double _ | double _, int _ => True
  | _, _ => False

theorem size_widen {x : Number} (h : ∀ y, x ≠ double y) : x.widen.size = x.size := by
  cases x with
  | int n => exact Wide.size_ofInt n
  | double x => exact absurd rfl (h x)
  | decimal d => exact Wide.size_ofDecimal d

/-- Numbers are ordered by their digits, except an integer and a double. -/
theorem cmp_eq_digits {x y : Number} (h : ¬ x.ByValue y) :
    x.cmp y = x.widen.size.cmp y.widen.size := by
  cases x with
  | int m =>
    cases y with
    | int n =>
      rw [cmp_eq_size id, size_widen (by simp), size_widen (by simp)]
    | double y => exact absurd trivial h
    | decimal e => exact Wide.cmp_eq_size _ _
  | double x =>
    cases y with
    | int n => exact absurd trivial h
    | double y => exact Double.cmp_eq_digits x y
    | decimal e => exact Wide.cmp_eq_size _ _
  | decimal d => exact Wide.cmp_eq_size _ _

/-! ## Triples -/

/-- The integer and the decimal stand, in this order, between the value of the double and its
digits, which differ. Each of the three is then at most the next one, all the way round. -/
def Circular (n : Int) (x : Double) (d : Decimal128) : Prop :=
  let digits := (Wide.ofDouble x).size
  x.size ≠ digits ∧
    (x.size ≤ .finite n ∧ .finite n ≤ d.size ∧ d.size ≤ digits ∨
      digits ≤ d.size ∧ d.size ≤ .finite n ∧ .finite n ≤ x.size)

section

variable {n : Int} {x : Double} {d : Decimal128}

theorem int_le_double : (int n).cmp (double x) ≠ .gt ↔ .finite n ≤ x.size := by
  rw [cmp_eq_size id]
  exact Iff.rfl

theorem double_le_int : (double x).cmp (int n) ≠ .gt ↔ x.size ≤ .finite n := by
  rw [cmp_eq_size id]
  exact Iff.rfl

theorem double_le_decimal :
    (double x).cmp (decimal d) ≠ .gt ↔ (Wide.ofDouble x).size ≤ d.size := by
  rw [cmp_eq_digits id, ← Wide.size_ofDecimal]
  exact Iff.rfl

theorem decimal_le_double :
    (decimal d).cmp (double x) ≠ .gt ↔ d.size ≤ (Wide.ofDouble x).size := by
  rw [cmp_eq_digits id, ← Wide.size_ofDecimal]
  exact Iff.rfl

theorem int_le_decimal : (int n).cmp (decimal d) ≠ .gt ↔ .finite n ≤ d.size := by
  rw [cmp_eq_size id]
  exact Iff.rfl

theorem decimal_le_int : (decimal d).cmp (int n) ≠ .gt ↔ d.size ≤ .finite n := by
  rw [cmp_eq_size id]
  exact Iff.rfl

end

theorem trans_of_not_mixed {x y z : Number} (hxy : ¬ x.Mixed y) (hyz : ¬ y.Mixed z)
    (hxz : ¬ x.Mixed z) (h : x.cmp y ≠ .gt) (h' : y.cmp z ≠ .gt) : x.cmp z ≠ .gt := by
  rw [cmp_eq_size hxy] at h
  rw [cmp_eq_size hyz] at h'
  rw [cmp_eq_size hxz]
  exact Size.cmp_ne_gt_iff.mpr (le_trans h h')

theorem trans_of_not_byValue {x y z : Number} (hxy : ¬ x.ByValue y) (hyz : ¬ y.ByValue z)
    (hxz : ¬ x.ByValue z) (h : x.cmp y ≠ .gt) (h' : y.cmp z ≠ .gt) : x.cmp z ≠ .gt := by
  rw [cmp_eq_digits hxy] at h
  rw [cmp_eq_digits hyz] at h'
  rw [cmp_eq_digits hxz]
  exact Size.cmp_ne_gt_iff.mpr (le_trans h h')

variable {S : Set Number}

/-- No integer and decimal of the set come between a double of the set and its digits. -/
def NoneCircular (S : Set Number) : Prop :=
  ∀ n x d, int n ∈ S → double x ∈ S → decimal d ∈ S → ¬ Circular n x d

theorem totalPreorderOn_of_noneCircular (h : NoneCircular S) : TotalPreorderOn cmp S where
  swap x _ y _ := cmp_swap x y
  trans x hx y hy z hz hxy hyz := by
    cases x <;> cases y <;> cases z
    all_goals try exact trans_of_not_mixed id id id hxy hyz
    all_goals try exact trans_of_not_byValue id id id hxy hyz
    -- What is left is one number of each type, in some order.
    case int.double.decimal n x d =>
      rw [int_le_double] at hxy
      rw [double_le_decimal] at hyz
      rw [int_le_decimal]
      by_contra hnd
      have hdn := (not_le.mp hnd)
      exact h n x d hx hy hz ⟨((hyz.trans_lt hdn).trans_le hxy).ne', .inr ⟨hyz, hdn.le, hxy⟩⟩
    case int.decimal.double n d x =>
      rw [int_le_decimal] at hxy
      rw [decimal_le_double] at hyz
      rw [int_le_double]
      by_contra hnx
      have hxn := not_le.mp hnx
      exact h n x d hx hz hy ⟨(hxn.trans_le (hxy.trans hyz)).ne, .inl ⟨hxn.le, hxy, hyz⟩⟩
    case double.int.decimal x n d =>
      rw [double_le_int] at hxy
      rw [int_le_decimal] at hyz
      rw [double_le_decimal]
      by_contra hxd
      have hdx := not_le.mp hxd
      exact h n x d hy hx hz ⟨((hxy.trans hyz).trans_lt hdx).ne, .inl ⟨hxy, hyz, hdx.le⟩⟩
    case double.decimal.int x d n =>
      rw [double_le_decimal] at hxy
      rw [decimal_le_int] at hyz
      rw [double_le_int]
      by_contra hxn
      have hnx := not_le.mp hxn
      exact h n x d hz hx hy ⟨((hxy.trans hyz).trans_lt hnx).ne', .inr ⟨hxy, hyz, hnx.le⟩⟩
    case decimal.int.double d n x =>
      rw [decimal_le_int] at hxy
      rw [int_le_double] at hyz
      rw [decimal_le_double]
      by_contra hdx
      have hxd := not_le.mp hdx
      exact h n x d hy hz hx ⟨(hxd.trans_le (hxy.trans hyz)).ne', .inr ⟨hxd.le, hxy, hyz⟩⟩
    case decimal.double.int d x n =>
      rw [decimal_le_double] at hxy
      rw [double_le_int] at hyz
      rw [decimal_le_int]
      by_contra hdn
      have hnd := not_le.mp hdn
      exact h n x d hz hy hx ⟨(hyz.trans_lt (hnd.trans_le hxy)).ne, .inl ⟨hyz, hnd.le, hxy⟩⟩

/-- Three numbers that are each at most the next one, all the way round, are equal if the
comparison is transitive. -/
theorem noneCircular_of_totalPreorderOn (h : TotalPreorderOn cmp S) : NoneCircular S := by
  rintro n x d hn hx hd ⟨hne, ⟨hxn, hnd, hdx⟩ | ⟨hxd, hdn, hnx⟩⟩
  · have hnx := h.trans _ hn _ hd _ hx (int_le_decimal.mpr hnd) (decimal_le_double.mpr hdx)
    have hdn := h.trans _ hd _ hx _ hn (decimal_le_double.mpr hdx) (double_le_int.mpr hxn)
    have hxd := h.trans _ hx _ hn _ hd (double_le_int.mpr hxn) (int_le_decimal.mpr hnd)
    rw [int_le_double] at hnx
    rw [decimal_le_int] at hdn
    rw [double_le_decimal] at hxd
    exact hne (le_antisymm (hxn.trans (hnd.trans hdx)) (hxd.trans (hdn.trans hnx)))
  · have hxn := h.trans _ hx _ hd _ hn (double_le_decimal.mpr hxd) (decimal_le_int.mpr hdn)
    have hdx := h.trans _ hd _ hn _ hx (decimal_le_int.mpr hdn) (int_le_double.mpr hnx)
    have hnd := h.trans _ hn _ hx _ hd (int_le_double.mpr hnx) (double_le_decimal.mpr hxd)
    rw [double_le_int] at hxn
    rw [decimal_le_double] at hdx
    rw [int_le_decimal] at hnd
    exact hne (le_antisymm (hxn.trans (hnd.trans hdx)) (hxd.trans (hdn.trans hnx)))

/-- Comparing orders a set of numbers exactly if nothing in it is circular. -/
theorem totalPreorderOn_iff : TotalPreorderOn cmp S ↔ NoneCircular S :=
  ⟨noneCircular_of_totalPreorderOn, totalPreorderOn_of_noneCircular⟩

end Number

end DocUpdate
