import DocUpdate.Number.Double
import DocUpdate.Text.Digits

/-!
# Numbers of JSON texts

A literal with a point or an exponent, or with more digits than 64 bits hold, stands for a
double. The digits are gathered while they fit 64 bits, and the double nearest to them is
scaled by a power of ten. That rounds more than once, so the result can miss the nearest
double by a little. What grows beyond the doubles on the way is refused.
-/

namespace DocUpdate.Json

/-! ## Literals -/

/-- A literal in its parts: digits before and after the point, and the written exponent. -/
structure NumberLiteral where
  negative : Bool
  whole : List Char
  fraction : List Char
  exponent : Int

/-- Takes a literal apart. -/
def NumberLiteral.ofText? (literal : String) : Option NumberLiteral := do
  let (negative, cs) := splitSign literal.toList
  let isMark (c : Char) : Bool := c == '.' || c == 'e' || c == 'E'
  let (whole, cs) := (cs.takeWhile (!isMark ·), cs.dropWhile (!isMark ·))
  let (fraction, cs) := match cs with
    | '.' :: cs => (cs.takeWhile (!isMark ·), cs.dropWhile (!isMark ·))
    | _ => ([], cs)
  match cs with
  | [] => some ⟨negative, whole, fraction, 0⟩
  | _ :: cs => (signedInteger? cs).map (⟨negative, whole, fraction, ·⟩)

/-! ## Gathering digits -/

/-- Appends digits to a number while it stays within 64 bits, and returns the others. -/
def gather (n : Nat) : List Char → Nat × List Char
  | [] => (n, [])
  | c :: cs =>
    let m := 10 * n + (c.toNat - '0'.toNat)
    if m < pow2 64 then gather m cs else (n, c :: cs)

/-- The gathered digits, and the power of ten that the point and the digits left out before it
make up for. Digits behind the point are gathered again from where those before it stopped. -/
def NumberLiteral.scaled (l : NumberLiteral) : Nat × Int :=
  let (n, omitted) := gather 0 l.whole
  let (n, unused) := gather n l.fraction
  (n, (omitted.length : Int) - (l.fraction.length - unused.length : Nat))

/-! ## Scaling -/

/-- The largest power of ten that a double can be near to. -/
def maxPower : Nat := 308

/-- The double nearest to a power of ten. -/
def powerOfTen (e : Nat) : Double := Double.ofDecimal false 1 e

/-- Divides by a power of ten, at most `10 ^ 308` at a time. -/
def divideByPower (x : Double) (e : Nat) : Double :=
  if e ≤ maxPower then x.div (powerOfTen e)
  else if x.isZero then x
  else divideByPower (x.div (powerOfTen maxPower)) (e - maxPower)
termination_by e
decreasing_by simp only [maxPower] at *; omega

/-- Multiplies by a power of ten, unless the result is too large. -/
def multiplyByPower? (x : Double) (e : Nat) : Option Double :=
  if e ≤ maxPower then
    let y := x.mul (powerOfTen e)
    if y.isInfinite then none else some y
  else if x.isZero then some x
  else none

def scale? (x : Double) (e : Int) : Option Double :=
  if 0 ≤ e then multiplyByPower? x e.toNat else some (divideByPower x e.natAbs)

/-- Written exponents have 32 bits. -/
def exponentLimit : Nat := pow2 31

/-- The size of the double that a literal denotes, if it is not too large. An exponent beyond
32 bits leaves a zero, or nothing. -/
def NumberLiteral.magnitude? (l : NumberLiteral) : Option Double :=
  let (n, e) := l.scaled
  if exponentLimit ≤ l.exponent.natAbs then
    if n ≠ 0 ∧ 0 < l.exponent then none else some (Double.zero false)
  else
    scale? (Double.ofInt n) (max (-exponentLimit) (min (e + l.exponent) (exponentLimit - 1)))

/-- The double that a literal denotes. -/
def double? (literal : String) : Option Double := do
  let l ← NumberLiteral.ofText? literal
  let x ← l.magnitude?
  some (if l.negative then x.neg else x)

end DocUpdate.Json
