/-!
# Sets of characters

A set is a list of ranges of code points, ends included. The ranges are in order and do not
touch, so equal sets are equal lists, and half surrogate pairs are in none of them.
-/

namespace DocUpdate

/-- A set of characters, by its ranges. -/
structure CharSet where
  ranges : List (Nat × Nat)
deriving DecidableEq, Hashable

namespace CharSet

def contains (r : Nat × Nat) (n : Nat) : Bool := r.1 ≤ n && n ≤ r.2

/-- Whether a code point lies in one of the ranges. -/
def memNat (s : CharSet) (n : Nat) : Bool := s.ranges.any (contains · n)

def mem (s : CharSet) (c : Char) : Bool := s.memNat c.toNat

/-! ## Building -/

def empty : CharSet := ⟨[]⟩

/-- Widens a range by those of an ordered list that it meets or touches. -/
def absorb (r : Nat × Nat) : List (Nat × Nat) → List (Nat × Nat)
  | [] => [r]
  | next :: rest =>
    if next.1 ≤ r.2 + 1 then absorb (r.1, max r.2 next.2) rest else r :: absorb next rest

/-- The union of ranges that are in the order of their first characters. -/
def ofOrdered : List (Nat × Nat) → CharSet
  | [] => empty
  | r :: rest => ⟨absorb r rest⟩

/-- The union of ranges in any order. -/
def ofRanges (ranges : List (Nat × Nat)) : CharSet :=
  ofOrdered (ranges.mergeSort fun a b => a.1 ≤ b.1)

/-- The parts that two ordered lists of ranges have in common. -/
def meets : List (Nat × Nat) → List (Nat × Nat) → List (Nat × Nat)
  | [], _ | _, [] => []
  | a :: as, b :: bs =>
    let first := max a.1 b.1
    let last := min a.2 b.2
    let rest := if a.2 < b.2 then meets as (b :: bs) else meets (a :: as) bs
    if first ≤ last then (first, last) :: rest else rest
termination_by as bs => as.length + bs.length

/-- Every character. -/
def all : CharSet := ⟨[(0, 0xd7ff), (0xe000, 0x10ffff)]⟩

def inter (s t : CharSet) : CharSet := ⟨meets s.ranges t.ranges⟩

def union (s t : CharSet) : CharSet := ofOrdered (s.ranges.merge t.ranges fun a b => a.1 ≤ b.1)

def unions (sets : List CharSet) : CharSet := ofRanges (sets.flatMap (·.ranges))

/-- What lies between ordered ranges, from a code point on. -/
def gaps (next : Nat) : List (Nat × Nat) → List (Nat × Nat)
  | [] => [(next, 0x10ffff)]
  | r :: rest =>
    if next < r.1 then (next, r.1 - 1) :: gaps (r.2 + 1) rest else gaps (r.2 + 1) rest

def compl (s : CharSet) : CharSet := ⟨meets all.ranges (gaps 0 s.ranges)⟩

def diff (s t : CharSet) : CharSet := s.inter t.compl

def symmDiff (s t : CharSet) : CharSet := (s.diff t).union (t.diff s)

/-- The characters between two, both of them included. -/
def range (first last : Char) : CharSet := ⟨meets all.ranges [(first.toNat, last.toNat)]⟩

def single (c : Char) : CharSet := ⟨[(c.toNat, c.toNat)]⟩

/-- The one character of a set that has no other. -/
def single? (s : CharSet) : Option Char :=
  match s.ranges with
  | [(first, last)] => if first = last then some (Char.ofNat first) else none
  | _ => none

/-- Every member is an ASCII character. -/
def isAscii (s : CharSet) : Bool := s.ranges.all (·.2 < 128)

end CharSet

end DocUpdate
