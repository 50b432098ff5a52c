import DocUpdate.Value.Arithmetic
import DocUpdate.Value.Same

/-!
# Stored integers

Integers are stored in 32 or in 64 bits. Both widths are read as mathematical integers and as
64 bits of a two's complement.
-/

namespace DocUpdate

/-! ## Widths -/

def FitsInt (n : Int) : Prop := Int32.minValue.toInt ≤ n ∧ n ≤ Int32.maxValue.toInt

def FitsLong (n : Int) : Prop := Int64.minValue.toInt ≤ n ∧ n ≤ Int64.maxValue.toInt

instance (n : Int) : Decidable (FitsInt n) := inferInstanceAs (Decidable (_ ∧ _))

instance (n : Int) : Decidable (FitsLong n) := inferInstanceAs (Decidable (_ ∧ _))

theorem FitsInt.fitsLong {n : Int} (h : FitsInt n) : FitsLong n := by
  have hmin : Int64.minValue.toInt ≤ Int32.minValue.toInt := by decide
  have hmax : Int32.maxValue.toInt ≤ Int64.maxValue.toInt := by decide
  unfold FitsInt at h
  unfold FitsLong
  omega

theorem fitsLong_iff {m : Int} : FitsLong m ↔ ∃ n : Int64, n.toInt = m := by
  constructor
  · intro h
    have hlong : int64Of? m = some (Int64.ofInt m) := if_pos h
    exact ⟨_, int64Of?_eq_some_iff.mp hlong⟩
  · rintro ⟨n, rfl⟩
    exact ⟨n.minValue_le_toInt, n.toInt_le⟩

/-- Stored integers have 64 bits at most. -/
theorem Value.fits_of_number? {v : Value} {n : Int} (h : v.number? = some (.int n)) :
    FitsLong n := by
  cases v <;> cases h
  case int32 m => exact FitsInt.fitsLong ⟨m.minValue_le_toInt, m.toInt_le⟩
  case int64 m => exact fitsLong_iff.mpr ⟨m, rfl⟩

/-! ## Integers of either width -/

inductive Integer where
  | int (n : Int32)
  | long (n : Int64)

namespace Integer

def value : Integer → Value
  | int n => .int32 n
  | long n => .int64 n

def toInt : Integer → Int
  | int n => n.toInt
  | long n => n.toInt

/-- The two's complement, continued to the left with the sign. -/
def bits : Integer → BitVec 64
  | int n => n.toBitVec.signExtend 64
  | long n => n.toBitVec

def isLong : Integer → Bool
  | int _ => false
  | long _ => true

@[simp] theorem toInt_bits (i : Integer) : i.bits.toInt = i.toInt := by
  cases i with
  | int n => simp [bits, toInt, BitVec.toInt_signExtend_of_le]
  | long n => rfl

theorem fitsInt_toInt {i : Integer} (h : i.isLong = false) : FitsInt i.toInt := by
  cases i with
  | int n => exact ⟨n.minValue_le_toInt, n.toInt_le⟩
  | long n => cases h

theorem toBitVec_ofInt (i : Integer) : (Int64.ofInt i.toInt).toBitVec = i.bits := by
  cases i with
  | int n => rfl
  | long n => simp [toInt, bits]

/-- A stored integer is stored alike with nothing else. -/
theorem eq_of_same {i : Integer} {v : Value} (h : i.value.same v) : i.value = v := by
  cases i <;> cases v <;> simp_all [value, Value.same]

end Integer

end DocUpdate
