/-!
# Decimal digits in text

Only the ten ASCII digits count.
-/

namespace DocUpdate

/-- The value of a list of decimal digits, if it holds nothing else. The empty list is zero. -/
def digits? (cs : List Char) : Option Nat :=
  cs.foldl (fun acc c => acc.bind fun n =>
    if c.isDigit then some (10 * n + (c.toNat - '0'.toNat)) else none) (some 0)

/-- A non-empty list of decimal digits. -/
def natural? (cs : List Char) : Option Nat := if cs.isEmpty then none else digits? cs

/-- Splits an optional sign from a text. -/
def splitSign : List Char → Bool × List Char
  | '-' :: cs => (true, cs)
  | '+' :: cs => (false, cs)
  | cs => (false, cs)

/-- An integer with an optional sign. -/
def signedInteger? (cs : List Char) : Option Int :=
  let (negative, digits) := splitSign cs
  (natural? digits).map fun n => if negative then -(n : Int) else n

end DocUpdate
