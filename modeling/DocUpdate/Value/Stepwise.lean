import DocUpdate.Number.WideText
import DocUpdate.Number.Width
import DocUpdate.Value.Order

/-!
# Comparing and reading numbers in steps

An integer is compared with a double by the range of the double first, then by its integer
part and last by its fraction, and a decimal is widened through its text. So nothing is as wide
as the numbers that `Number.cmp` compares, and the result is the same. In such steps a number is
read as an integer too.
-/

namespace DocUpdate

namespace Double

/-! ## Integer parts -/

/-- Drops the fraction and keeps the sign. The bits that stand for the fraction become zeros,
and below one all others do. -/
def trunc (x : Double) : Double :=
  let one := pow2 (-x.exponent).toNat
  if 0 ≤ x.exponent then x
  else if x.significand < one then zero x.negative
  else ⟨UInt64.ofNat (x.bits.toNat - x.bits.toNat % one)⟩

/-- The integer that is left of the magnitude of a finite double without its fraction. -/
def wholeMagnitude (x : Double) : Nat :=
  x.significand * pow2 x.exponent.toNat / pow2 (-x.exponent).toNat

def wholePart (x : Double) : Int := if x.negative then -x.wholeMagnitude else x.wholeMagnitude

/-- The 64-bit integer nearest to the integer part. For NaN it is zero. -/
def toLong (x : Double) : Int64 :=
  let limit := if x.negative then Int64.minValue else Int64.maxValue
  if x.isNaN then 0
  else if x.isInfinite then limit
  else (int64Of? x.wholePart).getD limit

/-! ## Order -/

/-- The least double above all 64-bit integers. -/
def longLimit : Double := ⟨0x43e0000000000000⟩

/-- Compares a 64-bit integer with a double. Where the double is in the range of such integers
its integer part decides, and the fraction if that is equal. -/
def cmpLong (n : Int) (x : Double) : Ordering :=
  if x.isNaN then .gt
  else if x.cmp longLimit ≠ .lt then .lt
  else if x.cmp longLimit.neg = .lt then .gt
  else (compare n x.trunc.toLong.toInt).then (x.trunc.cmp x)

/-! ## Integers -/

/-- The same double without its sign. -/
def abs (x : Double) : Double := ofMagnitude false (x.bits.toNat % pow2 63)

/-- From this double on integers are skipped. -/
def integerLimit : Double := ⟨0x4340000000000000⟩

/-- The integer that a double below the limit is, if nothing is cut off. -/
def asLong? (x : Double) : Option Int64 :=
  if x.isFinite ∧ x.trunc.cmp x = .eq ∧ x.abs.cmp integerLimit = .lt then some x.toLong else none

end Double

namespace Number

/-- Widens a decimal through its text. -/
def widenText : Number → Wide
  | decimal d => Wide.ofText d.text
  | x => x.widen

/-- Compares in steps. -/
def cmpStepwise : Number → Number → Ordering
  | int m, int n => compare m n
  | int m, double y => Double.cmpLong m y
  | double x, int n => (Double.cmpLong n x).swap
  | double x, double y => Double.cmp x y
  | x, y => x.widenText.cmp y.widenText

end Number

/-- Reads an integer in steps. -/
def Value.asLong? : Value → Option Int64
  | .int32 n => some n.toInt64
  | .int64 n => some n
  | .double x => x.asLong?
  | .decimal d => (Wide.ofText d.text).toInt?.bind int64Of?
  | _ => none

end DocUpdate
