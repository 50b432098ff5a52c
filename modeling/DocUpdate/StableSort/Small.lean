/-!
# Sorting short lists

An item is put behind all items it is not before, so items that compare equal keep their order.
Lists of medium length are sorted as two halves. These are merged from both ends at once, and
the ends have to meet.
-/

namespace DocUpdate.StableSort

universe u

variable {α : Type u} (cmp : α → α → Ordering)

/-! ## Placing items -/

/-- Puts an item into items sorted from last to first, in front of those it is not before. -/
def place (item : α) : List α → List α
  | [] => [item]
  | last :: rest =>
    if cmp item last == .lt then last :: place item rest else item :: last :: rest

/-- Places items one after another among sorted ones. -/
def placeAll (sorted items : List α) : List α :=
  (items.foldl (fun placed item => place cmp item placed) sorted.reverse).reverse

/-- Sorts items by placing them one after another. -/
def insertion (items : List α) : List α := placeAll cmp [] items

/-! ## Halves -/

/-- Two items in order. -/
def pair (a b : α) : α × α := if cmp b a == .lt then (b, a) else (a, b)

/-- Merges two pairs that are in order. Their first items tell the least of the four and their
last ones the greatest. -/
def mergePairs : α × α → α × α → List α
  | (a, b), (c, d) =>
    let (least, greatest, (x, y)) :=
      if cmp c a == .lt then
        if cmp d b == .lt then (c, b, pair cmp a d) else (c, d, pair cmp a b)
      else if cmp d b == .lt then (a, b, pair cmp c d) else (a, d, pair cmp b c)
    [least, x, y, greatest]

/-- Sorts a half, the first four items as two pairs if it has enough of them. -/
def sortHalf (pairs : Bool) (items : List α) : List α :=
  match pairs, items with
  | true, a :: b :: c :: d :: rest =>
    placeAll cmp (mergePairs cmp (pair cmp a b) (pair cmp c d)) rest
  | _, _ => insertion cmp items

/-- The first `n` items that a merge gives, and what it leaves of both lists. -/
def mergeFront (n : Nat) (left right : List α) : List α × List α × List α :=
  match n, left, right with
  | n + 1, a :: left, b :: right =>
    if cmp b a == .lt then
      let (merged, rest) := mergeFront n (a :: left) right
      (b :: merged, rest)
    else
      let (merged, rest) := mergeFront n left (b :: right)
      (a :: merged, rest)
  | _, _, _ => ([], left, right)

/-- Merges two halves, the second as long as the first or one item longer. As many items as the
first half has are taken from the front and as many from the back. What was left of a half at
the front has to reach to what was left of it at the back. -/
def mergeHalves? (left right : List α) : Option (List α) :=
  let (first, leftFront, rightFront) := mergeFront cmp left.length left right
  let (last, rightBack, leftBack) :=
    mergeFront (fun a b => cmp b a) left.length right.reverse left.reverse
  if left.length ≤ leftFront.length + leftBack.length ∧
      right.length ≤ rightFront.length + rightBack.length then
    some (first ++ leftFront.take (leftFront.length + leftBack.length - left.length) ++
      rightFront.take (rightFront.length + rightBack.length - right.length) ++ last.reverse)
  else none

/-- The greatest length for which sorting halves is worth it. -/
def smallLength : Nat := 32

/-- Sorts a list of at most `smallLength` items. -/
def small? (items : List α) : Option (List α) :=
  let half := items.length / 2
  let pairs := decide (8 ≤ items.length)
  mergeHalves? cmp (sortHalf cmp pairs (items.take half)) (sortHalf cmp pairs (items.drop half))

end DocUpdate.StableSort
