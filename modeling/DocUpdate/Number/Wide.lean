import DocUpdate.Number.Decimal128
import DocUpdate.Number.Shortest

/-!
# Decimals of any length

Arithmetic with a decimal on either side is carried out on `Wide` numbers, which have no
bound on digits or scale and no negative zero. `store` brings a result back to 34 digits.
The scale of a result is part of the answer, so sums and products say what it is.
-/

namespace DocUpdate

/-- An unbounded decimal `coefficient · 10 ^ (-scale)`, an infinity, or NaN. -/
inductive Wide where
  | nan
  | infinity (negative : Bool)
  | finite (coefficient scale : Int)
deriving DecidableEq

namespace Wide

/-! ## Widening -/

def ofInt (n : Int) : Wide := .finite n 0

private def signed (negative : Bool) (n : Nat) : Int := if negative then -n else n

/-- Every digit is kept, and the sign of zero is not. -/
def ofDecimal : Decimal128 → Wide
  | .nan _ _ => .nan
  | .infinity negative => .infinity negative
  | .finite d => .finite (signed d.negative d.coefficient) (-d.exponent)

/-- A double widens to its shortest digits, which need not be its exact value. In the range
written positionally an integer has one digit after the point, so `1` becomes `1.0`. -/
def ofDouble (x : Double) : Wide :=
  if x.isNaN then .nan
  else if x.isInfinite then .infinity x.negative
  else if x.isZero then .finite 0 1
  else
    let (digits, e) := x.shortest .up
    let first := e + digitCount digits - 1
    if 0 ≤ e ∧ first < 16 then .finite (signed x.negative (digits * pow10 (e + 1).toNat)) 1
    else .finite (signed x.negative digits) (-e)

/-! ## Order -/

/-- Where a number stands among NaN, the infinities and the finite numbers. NaN is lowest. -/
def bracket : Wide → Nat
  | .nan => 0
  | .infinity true => 1
  | .finite _ _ => 2
  | .infinity false => 3

def cmp : Wide → Wide → Ordering
  | .finite m s, .finite n t => compareScaled 10 m (-s) n (-t)
  | a, b => compare a.bracket b.bracket

def negative : Wide → Bool
  | .nan => false
  | .infinity negative => negative
  | .finite m _ => m < 0

/-! ## Sums and products -/

/-- Appends zeros until the scale is at least `target`. -/
def raiseScale (m s target : Int) : Int × Int :=
  if s < target then (m * pow10 (target - s).toNat, target) else (m, s)

/-- A sum has the larger scale of its terms. -/
def addFinite (m s n t : Int) : Int × Int :=
  let (m, s') := raiseScale m s t
  let (n, _) := raiseScale n t s
  (m + n, s')

/-- Opposite infinities have no sum. -/
def add : Wide → Wide → Wide
  | .nan, _ | _, .nan => .nan
  | .infinity a, .infinity b => if a = b then .infinity a else .nan
  | .infinity a, .finite _ _ | .finite _ _, .infinity a => .infinity a
  | .finite m s, .finite n t =>
    let (k, u) := addFinite m s n t
    .finite k u

/-- A one written without negative scale. -/
def isUnit (m s : Int) : Bool := 0 ≤ s && m == pow10 s.toNat

/-- Scales add up, but a factor of one leaves the other as it is. -/
def mulFinite (m s n t : Int) : Int × Int :=
  if isUnit m s then (n, t)
  else if isUnit n t then (m, s)
  else (m * n, s + t)

/-- Zero times an infinity is no number. -/
def mul (a b : Wide) : Wide :=
  match a, b with
  | .nan, _ | _, .nan => .nan
  | .infinity _, .finite m _ | .finite m _, .infinity _ =>
    if m = 0 then .nan else .infinity (a.negative != b.negative)
  | .infinity _, .infinity _ => .infinity (a.negative != b.negative)
  | .finite m s, .finite n t =>
    let (k, u) := mulFinite m s n t
    .finite k u

/-! ## Storing -/

/-- Drops `n` digits of a coefficient, a half going to the even neighbour. -/
def dropDigits (m : Int) (n : Nat) : Int :=
  let c := roundHalfEven m.natAbs (pow10 n)
  if m < 0 then -c else c

/-- At most 34 digits, or a one and 34 zeros where rounding carries. -/
def roundPrecision (m s : Int) : Int × Int :=
  let excess := digitCount m.natAbs - Decimal128.precision
  if excess = 0 then (m, s) else (dropDigits m excess, s - excess)

/-- At most as many places after the point as the least exponent has. -/
def roundScale (m s : Int) : Int × Int :=
  let limit := -Decimal128.minExponent
  if limit < s then (dropDigits m (s - limit).toNat, limit) else (m, s)

/-- Brings a number back to the stored format: to 34 digits, then to the least exponent, and
to an infinity where it is too large. A zero is positive. -/
def store : Wide → Decimal128
  | .nan => .nan false false
  | .infinity negative => .infinity negative
  | .finite m s =>
    let (c, t) := roundPrecision m s
    let (c, t) := roundScale c t
    (Decimal128.ofParts? (c < 0) c.natAbs (-t)).getD (.infinity (m < 0))

/-! ## Integers -/

/-- The integer that a finite number is, if it has no fraction. -/
def toInt? : Wide → Option Int
  | .finite m s =>
    if s ≤ 0 then some (m * pow10 (-s).toNat)
    else
      let d := pow10 s.toNat
      if m % d = 0 then some (m / d) else none
  | _ => none

end Wide

end DocUpdate
