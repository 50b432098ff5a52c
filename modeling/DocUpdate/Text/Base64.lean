import DocUpdate.Number.Power

/-!
# Base64

Three bytes make four characters of the standard alphabet, and the last group is filled
up with `=`. Reading accepts only what writing produces: full groups, and zero in the
bits that the padding leaves over.
-/

namespace DocUpdate.Base64

/-- The character of a number below 64. -/
def char (n : Nat) : Char :=
  if n < 26 then Char.ofNat ('A'.toNat + n)
  else if n < 52 then Char.ofNat ('a'.toNat + (n - 26))
  else if n < 62 then Char.ofNat ('0'.toNat + (n - 52))
  else if n = 62 then '+' else '/'

def value? (c : Char) : Option Nat :=
  if 'A' ≤ c ∧ c ≤ 'Z' then some (c.toNat - 'A'.toNat)
  else if 'a' ≤ c ∧ c ≤ 'z' then some (c.toNat - 'a'.toNat + 26)
  else if '0' ≤ c ∧ c ≤ '9' then some (c.toNat - '0'.toNat + 52)
  else if c = '+' then some 62
  else if c = '/' then some 63
  else none

/-- The four six-bit parts of 24 bits. -/
def sextets (bits : Nat) : List Char :=
  [char (bits / pow2 18 % 64), char (bits / pow2 12 % 64), char (bits / pow2 6 % 64),
    char (bits % 64)]

def encode : List UInt8 → List Char
  | [] => []
  | [a] => (sextets (a.toNat * pow2 16)).take 2 ++ ['=', '=']
  | [a, b] => (sextets (a.toNat * pow2 16 + b.toNat * pow2 8)).take 3 ++ ['=']
  | a :: b :: c :: rest =>
    sextets (a.toNat * pow2 16 + b.toNat * pow2 8 + c.toNat) ++ encode rest

/-- The bytes of 24 bits. -/
def octets (bits : Nat) : List UInt8 :=
  [UInt8.ofNat (bits / pow2 16), UInt8.ofNat (bits / pow2 8), UInt8.ofNat bits]

def decode? : List Char → Option (List UInt8)
  | [] => some []
  | [a, b, '=', '='] => do
    let bits := (← value? a) * pow2 18 + (← value? b) * pow2 12
    if bits % pow2 16 = 0 then some ((octets bits).take 1) else none
  | [a, b, c, '='] => do
    let bits := (← value? a) * pow2 18 + (← value? b) * pow2 12 + (← value? c) * pow2 6
    if bits % pow2 8 = 0 then some ((octets bits).take 2) else none
  | a :: b :: c :: d :: rest => do
    let bits :=
      (← value? a) * pow2 18 + (← value? b) * pow2 12 + (← value? c) * pow2 6 + (← value? d)
    let bytes ← decode? rest
    some (octets bits ++ bytes)
  | _ => none

end DocUpdate.Base64
