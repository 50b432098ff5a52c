import DocUpdate.Number.Double

/-!
# The shortest digits of a double

The reals that round to a finite double form an interval around it. Its shortest
form is the decimal with the fewest digits inside that interval, and of those the
nearest to the double. The second half lays such digits out as text.
-/

namespace DocUpdate

/-- Which of two equally near decimals is taken. -/
inductive Tie where
  | up
  | even
deriving DecidableEq

/-! ## Digits -/

/-- The `k` with `10 ^ (k - 1) ≤ m · 2 ^ e < 10 ^ k`, for a positive `m`. -/
def decimalPoint (m : Nat) (e : Int) : Int :=
  let n := m * pow2 e.toNat
  let d := pow2 (-e).toNat
  if d ≤ n then digitCount (n / d) else 1 - digitCount (d / n)

namespace Double

/-- The gap below a power of two is half the gap above it, except at the least exponent. -/
def narrowBelow (x : Double) : Bool := x.fractionField == 0 && 1 < x.exponentField

/-- The multiple of `10 ^ s` that rounds to the finite positive `x`, the nearer one if both
neighbours do. Lengths are in quarters of the last place, so the ends are integers. -/
def onGrid? (x : Double) (tie : Tie) (s : Int) : Option Nat :=
  let e := x.exponent - 2
  let valueUnit := pow2 e.toNat * pow10 (-s).toNat
  let gridUnit := pow10 s.toNat * pow2 (-e).toNat
  let value := 4 * x.significand * valueUnit
  let low := (4 * x.significand - (if x.narrowBelow then 1 else 2)) * valueUnit
  let high := (4 * x.significand + 2) * valueUnit
  let inside (t : Nat) : Bool :=
    if x.significand % 2 = 0 then low ≤ t * gridUnit && t * gridUnit ≤ high
    else low < t * gridUnit && t * gridUnit < high
  let t := value / gridUnit
  match inside t, inside (t + 1) with
  | false, false => none
  | true, false => some t
  | false, true => some (t + 1)
  | true, true =>
    match compare (2 * value) ((2 * t + 1) * gridUnit) with
    | .lt => some t
    | .gt => some (t + 1)
    | .eq => some (if tie = .even ∧ t % 2 = 0 then t else t + 1)

/-- The shortest decimal `digits · 10 ^ e` that rounds to the magnitude of the finite
non-zero `x`. Seventeen digits are always enough. -/
def shortest (x : Double) (tie : Tie) : Nat × Int :=
  let k := decimalPoint x.significand x.exponent
  let found := (List.range 17).findSome? fun n =>
    let s := k - (n + 1 : Nat)
    (x.onGrid? tie s).map fun t => (t, s)
  let (digits, e) := found.getD (0, 0)
  stripZeros digits e

end Double

/-! ## Text -/

/-- How the digits of a double are laid out. -/
structure Layout where
  /-- Whether a number whose first digit has this power of ten is written positionally. -/
  positional : Int → Bool
  /-- What follows the digits of an integer. -/
  integerTail : String
  /-- What precedes a positive exponent. -/
  positiveExponent : String
  tie : Tie

namespace Layout

/-- Never an exponent, and no point in an integer. -/
def plain : Layout := ⟨fun _ => true, "", "", .up⟩

/-- A JSON number: positional from `1e-5` up to but not including `1e16`, always marked as
not an integer, and with a signed exponent elsewhere. -/
def json : Layout := ⟨fun a => -5 ≤ a && a < 16, ".0", "+", .even⟩

private def zeros (n : Nat) : String := String.ofList (List.replicate n '0')

private def splitAt (ds : List Char) (n : Nat) : String :=
  String.ofList (ds.take n) ++ "." ++ String.ofList (ds.drop n)

/-- The text of `digits · 10 ^ e`. -/
def magnitude (layout : Layout) (digits : Nat) (e : Int) : String :=
  let ds := (Nat.repr digits).toList
  let point := ds.length + e
  let first := point - 1
  if layout.positional first then
    if point ≤ 0 then "0." ++ zeros (-point).toNat ++ String.ofList ds
    else if 0 ≤ e then String.ofList ds ++ zeros e.toNat ++ layout.integerTail
    else splitAt ds point.toNat
  else
    let mantissa := if ds.length ≤ 1 then String.ofList ds else splitAt ds 1
    let sign := if first < 0 then "-" else layout.positiveExponent
    mantissa ++ "e" ++ sign ++ Nat.repr first.natAbs

/-- The text of a finite double. The sign of zero is kept. -/
def text (layout : Layout) (x : Double) : String :=
  let sign := if x.negative then "-" else ""
  if x.isZero then sign ++ "0" ++ layout.integerTail
  else
    let (digits, e) := x.shortest layout.tie
    sign ++ layout.magnitude digits e

end Layout

end DocUpdate
