import DocUpdate.Number.Decimal128

/-!
# Decimals as bytes

A decimal of 16 bytes, the least significant byte first. The sign is the top bit. Four ones
below it mark NaN and the infinities. A finite decimal has an exponent of 14 bits, counted
from the least exponent, and the coefficient under it. What is not a coefficient of 34 digits
counts as zero.
-/

namespace DocUpdate.Decimal128

/-- The number whose bytes these are, the least significant one first. -/
def numberOfBytes (bytes : List UInt8) : Nat :=
  bytes.foldr (fun b n => n * 256 + b.toNat) 0

/-- The field of `width` bits that starts at a bit. -/
def field (bits start width : Nat) : Nat := bits / pow2 start % pow2 width

/-- The coefficient that a field of bits denotes. -/
def coefficientOf (n : Nat) : Nat := if n < pow10 precision then n else 0

/-- The decimal of 128 bits. Two ones below the sign announce a coefficient that is always too
large, and move the exponent down by two places. -/
def ofBits? (bits : Nat) : Option Decimal128 :=
  let negative := field bits 127 1 == 1
  if field bits 123 4 == 15 then
    some (if field bits 122 1 == 1 then .nan negative (field bits 121 1 == 1)
      else .infinity negative)
  else if field bits 125 2 == 3 then
    inRange? negative 0 (minExponent + field bits 111 14)
  else
    inRange? negative (coefficientOf (field bits 0 113)) (minExponent + field bits 113 14)

/-- The decimal of 16 bytes. -/
def ofBytes? (bytes : List UInt8) : Option Decimal128 :=
  if bytes.length = 16 then ofBits? (numberOfBytes bytes) else none

end DocUpdate.Decimal128
