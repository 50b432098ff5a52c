import DocUpdate.Number.Rounding

/-!
# 64-bit binary floating point

A `Double` is its 64 bits. A finite one stands for `± significand · 2 ^ exponent`,
and every operation here is the exact one followed by one rounding to nearest,
so nothing depends on the arithmetic of the machine.
-/

namespace DocUpdate

/-- A binary floating point number of 64 bits: sign, 11 bits of exponent, 52 of fraction. -/
structure Double where
  bits : UInt64
deriving DecidableEq

namespace Double

/-! ## Reading the bits -/

def negative (x : Double) : Bool := pow2 63 ≤ x.bits.toNat

def exponentField (x : Double) : Nat := x.bits.toNat / pow2 52 % pow2 11

def fractionField (x : Double) : Nat := x.bits.toNat % pow2 52

def isNaN (x : Double) : Bool := x.exponentField = 2047 ∧ x.fractionField ≠ 0

def isInfinite (x : Double) : Bool := x.exponentField = 2047 ∧ x.fractionField = 0

def isFinite (x : Double) : Bool := x.exponentField ≠ 2047

/-- The integer `m` of a finite value `± m · 2 ^ exponent`. The least exponent has no hidden bit. -/
def significand (x : Double) : Nat :=
  if x.exponentField = 0 then x.fractionField else pow2 52 + x.fractionField

def exponent (x : Double) : Int := (max 1 x.exponentField : Nat) - 1075

/-- The significand with its sign. -/
def signed (x : Double) : Int := if x.negative then -x.significand else x.significand

def isZero (x : Double) : Bool := x.isFinite && x.significand == 0

/-! ## Building from bits -/

/-- The bits of a magnitude with its sign on top. -/
def ofMagnitude (negative : Bool) (magnitude : Nat) : Double :=
  ⟨UInt64.ofNat (if negative then pow2 63 + magnitude else magnitude)⟩

def zero (negative : Bool) : Double := ofMagnitude negative 0

def infinity (negative : Bool) : Double := ofMagnitude negative (2047 * pow2 52)

def nan (negative : Bool) : Double := ofMagnitude negative (2047 * pow2 52 + pow2 51)

/-- The double nearest to `± n / d`. A half goes to the even significand, and what
rounds past the largest finite double is infinite. -/
def nearest (negative : Bool) (n d : Nat) : Double :=
  if n = 0 then zero negative
  else
    let e := max (floorLog2 n d - 52) (-1074)
    let q := roundHalfEven (n * pow2 (-e).toNat) (d * pow2 e.toNat)
    ofMagnitude negative (min ((e + 1074).toNat * pow2 52 + q) (2047 * pow2 52))

/-- The double nearest to `m · 2 ^ e`. -/
def ofScaled (m e : Int) : Double :=
  nearest (m < 0) (m.natAbs * pow2 e.toNat) (pow2 (-e).toNat)

def ofInt (n : Int) : Double := nearest (n < 0) n.natAbs 1

/-- The double nearest to `± digits · 10 ^ e`. Far outside the range of doubles the
power of ten is not computed. -/
def ofDecimal (negative : Bool) (digits : Nat) (e : Int) : Double :=
  if digits = 0 then zero negative
  else if e + digitCount digits > 400 then infinity negative
  else if e + digitCount digits < -400 then zero negative
  else nearest negative (digits * pow10 e.toNat) (pow10 (-e).toNat)

/-! ## Arithmetic

An operand that is NaN is the result, the first one where both are. An operation that has no
result gives a NaN of its own.
-/

/-- What an operation without a result gives. -/
def undefined : Double := nan true

/-- The first operand that is NaN, if either is. -/
def nanOf? (x y : Double) : Option Double :=
  if x.isNaN then some x else if y.isNaN then some y else none

def neg (x : Double) : Double :=
  ofMagnitude (!x.negative) (x.bits.toNat % pow2 63)

/-- Sums of opposite values, and of zeros of unlike sign, are the positive zero. -/
def add (x y : Double) : Double :=
  if let some z := nanOf? x y then z
  else if x.isInfinite then if y.isInfinite && x.negative != y.negative then undefined else x
  else if y.isInfinite then y
  else
    let e := min x.exponent y.exponent
    let m := x.signed * pow2 (x.exponent - e).toNat + y.signed * pow2 (y.exponent - e).toNat
    if m = 0 then zero (x.negative && y.negative) else ofScaled m e

def mul (x y : Double) : Double :=
  let negative := x.negative != y.negative
  if let some z := nanOf? x y then z
  else if x.isInfinite || y.isInfinite then
    if x.isZero || y.isZero then undefined else infinity negative
  else
    let m := x.significand * y.significand
    let e := x.exponent + y.exponent
    nearest negative (m * pow2 e.toNat) (pow2 (-e).toNat)

/-- Zeros have no quotient, and neither have infinities. -/
def div (x y : Double) : Double :=
  let negative := x.negative != y.negative
  if let some z := nanOf? x y then z
  else if x.isInfinite then if y.isInfinite then undefined else infinity negative
  else if y.isInfinite then zero negative
  else if y.isZero then if x.isZero then undefined else infinity negative
  else
    let e := x.exponent - y.exponent
    nearest negative (x.significand * pow2 e.toNat) (y.significand * pow2 (-e).toNat)

/-! ## Order -/

/-- Where a double stands among NaN, the infinities and the finite numbers. NaN is lowest. -/
def bracket (x : Double) : Nat :=
  if x.isNaN then 0
  else if x.isInfinite then if x.negative then 1 else 3
  else 2

/-- Compares values: the zeros are equal, and NaN is equal to itself and below the rest. -/
def cmp (x y : Double) : Ordering :=
  if x.isFinite && y.isFinite then compareScaled 2 x.signed x.exponent y.signed y.exponent
  else compare x.bracket y.bracket

/-- Compares an integer with a double without rounding the integer. -/
def cmpInt (n : Int) (x : Double) : Ordering :=
  if x.isFinite then compareScaled 2 n 0 x.signed x.exponent
  else compare 2 x.bracket

/-- Equality of arithmetic: NaN differs from itself and the zeros are equal. -/
def same (x y : Double) : Bool := !x.isNaN && x.cmp y == .eq

/-! ## Integers -/

/-- The integer that a finite double is, if it has no fraction. -/
def toInt? (x : Double) : Option Int :=
  if !x.isFinite then none
  else if 0 ≤ x.exponent then some (x.signed * pow2 x.exponent.toNat)
  else
    let d := pow2 (-x.exponent).toNat
    if x.significand % d = 0 then some (x.signed / d) else none

end Double

end DocUpdate
