import DocUpdate.StableSort.Runs

/-!
# Stable sorting

Short lists are sorted by insertion and longer ones by runs. Unsorted runs are split at a
pivot, again and again until they are small. All this relies on a comparison that orders the
items. Where it does not, halves may not fit together, and sorting stops.
-/

namespace DocUpdate.StableSort

universe u

variable {α : Type u} (cmp : α → α → Ordering)

def median (a b c : α) : α :=
  let first := cmp a b == .lt
  if first == (cmp a c == .lt) then
    if (cmp b c == .lt) == first then b else c
  else a

/-- A pivot for `n` items from a place on: the median of three, each of them the pivot of an
eighth. -/
def pivot (a : α) (items : List α) (start n : Nat) : α :=
  if n < 8 then items.getD start a
  else
    median cmp (pivot a items start (n / 8)) (pivot a items (start + 4 * (n / 8)) (n / 8))
      (pivot a items (start + 7 * (n / 8)) (n / 8))
termination_by n
decreasing_by all_goals omega

/-- Sorts by splitting at a pivot, as often as the limit allows. No item is before `least`, if
there is one. Where none is before the pivot either, those that equal it are in place. -/
def quick? (limit : Nat) (least : Option α) (items : List α) : Option (List α) :=
  if items.length ≤ smallLength then small? cmp items
  else
    match limit, items with
    | limit + 1, a :: _ =>
      let p := pivot cmp a items 0 items.length
      let low := items.filter (cmp · p == .lt)
      if least.any (cmp · p != .lt) || low.isEmpty then do
        let rest ← quick? limit none (items.filter (cmp p · == .lt))
        return items.filter (cmp p · != .lt) ++ rest
      else do
        let high ← quick? limit (some p) (items.filter (cmp · p != .lt))
        let low ← quick? limit least low
        return low ++ high
    | _, _ => byRuns? cmp (small? cmp) true items

/-- Sorts items, or stops where it notices that the comparison does not order them. Items that
compare equal keep their order. -/
def sort? (items : List α) : Option (List α) :=
  if items.length ≤ 20 then some (insertion cmp items)
  else
    let split (items : List α) := quick? cmp (2 * items.length.log2) none items
    byRuns? cmp split (items.length ≤ 2 * smallLength) items

end DocUpdate.StableSort
