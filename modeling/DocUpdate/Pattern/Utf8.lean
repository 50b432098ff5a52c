import DocUpdate.Unicode.CharSet

/-!
# Characters as bytes

The UTF-8 forms of the characters of a set, by sequences of byte ranges: a sequence stands for
every choice of one byte from each of its ranges.
-/

namespace DocUpdate.Utf8

/-- One range of bytes after another. -/
abbrev Sequence := List (Nat × Nat)

/-- Cuts a range of code points so that in every part the last bytes are free wherever an
earlier byte is. The blocks are what one, two and three bytes at the end can tell apart. -/
def cut : List Nat → Nat → Nat → List (Nat × Nat)
  | [], first, last => [(first, last)]
  | block :: blocks, first, last =>
    if first / block = last / block then [(first, last)]
    else
      let firstFull := (first + block - 1) / block * block
      let head := if first < firstFull then [(first, firstFull - 1)] else []
      if firstFull / block = last / block then head ++ [(firstFull, last)]
      else
        let endFull := (last + 1) / block * block
        let tail := if endFull ≤ last then [(endFull, last)] else []
        head ++ cut blocks firstFull (endFull - 1) ++ tail

/-- The first and last characters whose forms have the same number of bytes, and the blocks of
their last bytes. -/
def lengths : List (Nat × Nat × List Nat) :=
  [(0, 0x7f, []), (0x80, 0x7ff, [0x40]), (0x800, 0xffff, [0x40, 0x1000]),
    (0x10000, 0x10ffff, [0x40, 0x1000, 0x40000])]

def bytes (n : Nat) : List Nat := (String.utf8EncodeChar (Char.ofNat n)).map (·.toNat)

/-- The sequences of a range of characters. -/
def ofRange (r : Nat × Nat) : List Sequence :=
  lengths.flatMap fun (first, last, blocks) =>
    let first := max first r.1
    let last := min last r.2
    if first ≤ last then (cut blocks first last).map fun (a, b) => (bytes a).zip (bytes b) else []

/-- The sequences of a set, in order. -/
def sequences (s : CharSet) : List Sequence := s.ranges.flatMap ofRange

end DocUpdate.Utf8
