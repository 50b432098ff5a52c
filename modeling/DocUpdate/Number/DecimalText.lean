import DocUpdate.Number.Decimal128
import DocUpdate.Text.Digits

/-!
# Decimals as text

Reading takes an optional sign, then a name of a special value or digits with at most one
point and an optional exponent, and keeps every written digit. No digits at all are a zero.
Writing is positional when the exponent is not positive and the number is at least
`0.000001` in size, and in scientific form elsewhere.
-/

namespace DocUpdate

/-! ## Reading -/

/-- The text before the first place where `p` holds, and the text after it, if there is one. -/
def cutAt (p : Char → Bool) (cs : List Char) : List Char × Option (List Char) :=
  match cs.dropWhile (!p ·) with
  | [] => (cs, none)
  | _ :: after => (cs.takeWhile (!p ·), some after)

/-- Digits, an optional point among or around them, and an optional exponent. -/
structure DecimalLiteral where
  digits : Nat
  /-- How many digits stand after the point. -/
  places : Nat
  exponent : Int
deriving DecidableEq

/-- Reads an unsigned decimal number. At least one digit is needed. -/
def DecimalLiteral.read? (cs : List Char) : Option DecimalLiteral := do
  let (mantissa, exponentText) := cutAt (fun c => c == 'e' || c == 'E') cs
  let exponent ← match exponentText with
    | none => some 0
    | some t => signedInteger? t
  let (whole, fraction) := cutAt (· == '.') mantissa
  let fraction := fraction.getD []
  let digits ← natural? (whole ++ fraction)
  some ⟨digits, fraction.length, exponent⟩

namespace Decimal128

private def lower (cs : List Char) : String := String.ofList (cs.map Char.toLower)

/-- Written exponents, before and after counting the digits behind the point, fit 128 bits. -/
def fitsExponent (e : Int) : Bool := -(pow2 127) ≤ e && e < pow2 127

/-- Reads the places of a coefficient. Zeros in front take up none. After them a plus sign may
stand, which takes up one and needs a digit behind it. -/
def readWritten? (cs : List Char) : Option Written :=
  match cs.dropWhile (· == '0') with
  | [] => some (.ofNat 0)
  | '+' :: ds => (natural? ds).map fun n => ⟨n, ds.length, 1⟩
  | ds => (natural? ds).map fun n => ⟨n, ds.length, 0⟩

/-- The finite decimal that a text without its sign denotes. -/
def readFinite? (negative : Bool) (cs : List Char) : Option Decimal128 := do
  let (mantissa, exponentText) := cutAt (fun c => c == 'e' || c == 'E') cs
  let exponent ← match exponentText with
    | none => some 0
    | some t => signedInteger? t
  let (whole, fraction) := cutAt (· == '.') mantissa
  let fraction := fraction.getD []
  let written ← readWritten? (whole ++ fraction)
  let e := exponent - fraction.length
  if fitsExponent exponent && fitsExponent e then ofWritten? negative written e else none

/-- The decimal that a text denotes, if it can be held without losing a digit. -/
def parse? (text : String) : Option Decimal128 :=
  let (negative, cs) := splitSign text.toList
  match lower cs with
  | "nan" => some (.nan negative false)
  | "snan" => some (.nan negative true)
  | "inf" | "infinity" => some (.infinity negative)
  | _ => readFinite? negative cs

/-! ## Writing -/

private def pointAfter (ds : List Char) (n : Nat) : String :=
  String.ofList (ds.take n) ++ "." ++ String.ofList (ds.drop n)

/-- The text of a coefficient and an exponent, without a sign. -/
def magnitudeText (coefficient : Nat) (exponent : Int) : String :=
  let ds := (Nat.repr coefficient).toList
  let adjusted := exponent + ds.length - 1
  if exponent ≤ 0 ∧ -6 ≤ adjusted then
    let places := exponent.natAbs
    if places = 0 then String.ofList ds
    else
      let padded := List.replicate (places + 1 - ds.length) '0' ++ ds
      pointAfter padded (padded.length - places)
  else
    let mantissa := if ds.length ≤ 1 then String.ofList ds else pointAfter ds 1
    mantissa ++ "E" ++ (if adjusted < 0 then "-" else "+") ++ Nat.repr adjusted.natAbs

/-- The text of a decimal. NaN has no sign and the sign of zero is kept. -/
def text : Decimal128 → String
  | nan _ _ => "NaN"
  | infinity negative => if negative then "-Infinity" else "Infinity"
  | finite d => (if d.negative then "-" else "") ++ magnitudeText d.coefficient d.exponent

end Decimal128

end DocUpdate
