import DocUpdate.Number.Rounding

/-!
# 128-bit decimal floating point

A finite `Decimal128` is `± coefficient · 10 ^ exponent` with at most 34 digits. The
coefficient and the exponent are both part of it: `1` and `1.0` are two values of the
same size. `ofWritten?` is the only way in from unbounded parts: it never loses a digit,
and moves zeros between coefficient and exponent to reach the range.
-/

namespace DocUpdate

namespace Decimal128

def precision : Nat := 34

def minExponent : Int := -6176

def maxExponent : Int := 6111

end Decimal128

open Decimal128 in
/-- The parts of a finite decimal, all within range. -/
structure Finite where
  negative : Bool
  coefficient : Nat
  exponent : Int
  coefficient_lt : coefficient < pow10 precision
  minExponent_le : minExponent ≤ exponent
  le_maxExponent : exponent ≤ maxExponent
deriving DecidableEq

/-- A decimal floating point number of 128 bits. -/
inductive Decimal128 where
  | nan (negative signalling : Bool)
  | infinity (negative : Bool)
  | finite (parts : Finite)
deriving DecidableEq

namespace Decimal128

/-- The decimal with exactly these parts, if they are in range. -/
def inRange? (negative : Bool) (coefficient : Nat) (exponent : Int) : Option Decimal128 :=
  if h : coefficient < pow10 precision ∧ minExponent ≤ exponent ∧ exponent ≤ maxExponent then
    some (.finite ⟨negative, coefficient, exponent, h.1, h.2.1, h.2.2⟩)
  else none

/-- A coefficient as it is written: how many digits stand for it, and how many places are
taken up by something else. -/
structure Written where
  coefficient : Nat
  digits : Nat
  extra : Nat
deriving DecidableEq

namespace Written

/-- A coefficient in its own digits. -/
def ofNat (coefficient : Nat) : Written := ⟨coefficient, digitCount coefficient, 0⟩

def width (w : Written) : Nat := w.digits + w.extra

/-- A single zero and nothing beside it. -/
def isZero (w : Written) : Bool := w.coefficient = 0 ∧ w.width = 1

/-- Drops `n` trailing zeros, if there are that many and a digit is left. -/
def dropZeros? (w : Written) (n : Nat) : Option Written :=
  if n < w.digits && w.coefficient % pow10 n == 0 then
    some ⟨w.coefficient / pow10 n, w.digits - n, w.extra⟩
  else none

/-- Appends zeros. -/
def pad (w : Written) (n : Nat) : Written := ⟨w.coefficient * pow10 n, w.digits + n, w.extra⟩

/-- Moves zeros out of a coefficient that takes up too many places, or fails. -/
def shorten? (w : Written) (exponent : Int) : Option (Written × Int) :=
  let excess := w.width - precision
  (w.dropZeros? excess).map fun w => (w, exponent + excess)

/-- Moves zeros between coefficient and exponent until the exponent is in range, or fails. -/
def clamp? (w : Written) (exponent : Int) : Option (Written × Int) :=
  if exponent < minExponent then
    (w.dropZeros? (minExponent - exponent).toNat).map fun w => (w, minExponent)
  else if maxExponent < exponent then
    let missing := (exponent - maxExponent).toNat
    if w.width + missing ≤ precision then some (w.pad missing, maxExponent) else none
  else some (w, exponent)

end Written

/-- The decimal equal to `± coefficient · 10 ^ exponent`, if there is one that takes up at
most 34 places. A zero takes the nearest exponent in range. -/
def ofWritten? (negative : Bool) (w : Written) (exponent : Int) : Option Decimal128 :=
  if w.isZero then inRange? negative 0 (max minExponent (min exponent maxExponent))
  else do
    let (w, e) ← w.shorten? exponent
    let (w, e) ← w.clamp? e
    inRange? negative w.coefficient e

/-- The decimal equal to `± coefficient · 10 ^ exponent`, if there is one. -/
def ofParts? (negative : Bool) (coefficient : Nat) (exponent : Int) : Option Decimal128 :=
  ofWritten? negative (.ofNat coefficient) exponent

/-- Zero with exponent zero. -/
def zero : Decimal128 := .finite ⟨false, 0, 0, by decide, by decide, by decide⟩

theorem inRange?_parts (d : Finite) :
    inRange? d.negative d.coefficient d.exponent = some (.finite d) := by
  simp [inRange?, d.coefficient_lt, d.minExponent_le, d.le_maxExponent]

end Decimal128

end DocUpdate
