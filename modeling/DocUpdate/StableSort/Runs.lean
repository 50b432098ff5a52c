import DocUpdate.StableSort.Small

/-!
# Sorting by runs

A list is split into runs, which are then merged in pairs. A run that is not in order as it
stands may stay unsorted until it meets one that is. Which runs are merged first follows from
where they lie in the list.
-/

namespace DocUpdate.StableSort

universe u

variable {α : Type u}

/-- A part of the list, in order or still as it stood. -/
structure Run (α : Type u) where
  items : List α
  sorted : Bool

/-! ## Finding runs -/

/-- How many items there are up to the first that is not related to the one before it. -/
def chainLength (related : α → α → Bool) : List α → Nat
  | a :: b :: rest => if related a b then chainLength related (b :: rest) + 1 else 1
  | items => items.length

variable (cmp : α → α → Ordering)

/-- The items in order that a list starts with. Falling items are put in order if none of them
are equal. -/
def existingRun (items : List α) : List α :=
  match items with
  | a :: b :: _ =>
    if cmp b a == .lt then
      (items.take (chainLength (fun x y => cmp y x == .lt) items)).reverse
    else items.take (chainLength (fun x y => cmp y x != .lt) items)
  | _ => items

/-- The run of the items that a list starts with. A run in order has to be of some length. Where
there is none, an eager sort makes one, and others leave as many items unsorted. -/
def firstRun? (eager : Bool) (enough : Nat) (items : List α) : Option (Run α) :=
  let run := existingRun cmp items
  if enough ≤ run.length then some ⟨run, true⟩
  else if eager then (small? cmp (items.take smallLength)).map (⟨·, true⟩)
  else some ⟨items.take enough, false⟩

/-- All runs of a list, each behind the items of those before it. -/
def runs? (eager : Bool) (enough : Nat) (items : List α) : Option (List (Run α)) :=
  match items with
  | [] => some []
  | a :: rest => do
    let run ← firstRun? cmp eager enough (a :: rest)
    let later ← runs? eager enough (rest.drop (run.items.length - 1))
    return run :: later
termination_by items.length
decreasing_by simp only [List.length_drop, List.length_cons]; omega

/-! ## Merging runs -/

/-- Merges two sorted lists, beginning where the shorter one lies. -/
def merge (left right : List α) : List α :=
  if left.length ≤ right.length then left.merge right fun a b => cmp b a != .lt
  else (right.reverse.merge left.reverse fun b a => cmp b a != .lt).reverse

variable (sort? : List α → Option (List α))

/-- The items of a run in order. -/
def Run.inOrder? (run : Run α) : Option (List α) :=
  if run.sorted then some run.items else sort? run.items

/-- Merges two neighbours. Two unsorted ones are only put together. -/
def Run.join? (left right : Run α) : Option (Run α) :=
  if left.sorted || right.sorted then do
    return ⟨merge cmp (← left.inOrder? sort?) (← right.inOrder? sort?), true⟩
  else some ⟨left.items ++ right.items, false⟩

/-- Merges a run with those before it as long as their merge lies at least so deep. -/
def collapse? (depth : Nat) (before : List (Run α × Nat)) (run : Run α) :
    Option (Run α × List (Run α × Nat)) :=
  match before with
  | (left, d) :: earlier =>
    if depth ≤ d then do collapse? depth earlier (← left.join? cmp sort? run)
    else some (run, before)
  | [] => some (run, [])

/-- How deep in a balanced tree over all items the merge of two neighbours lies. -/
def mergeDepth (total start middle stop : Nat) : Nat :=
  let scale := ((1 <<< 62) + total - 1) / total
  63 - ((scale * (start + middle)) ^^^ (scale * (middle + stop))).log2

/-- Merges all runs, with those before the last one not yet merged and how deep each of them
lies. -/
def mergeRuns? (total start : Nat) (before : List (Run α × Nat)) (run : Run α) :
    List (Run α) → Option (Run α)
  | [] => do
    let (all, _) ← collapse? cmp sort? 0 before run
    return all
  | next :: later => do
    let middle := start + run.items.length
    let depth := mergeDepth total start middle (middle + next.items.length)
    let (merged, before) ← collapse? cmp sort? depth before run
    mergeRuns? total middle ((merged, depth) :: before) next later

/-- How long a run has to be. Of a long list it has about the square root of the length. -/
def enoughFor (length : Nat) : Nat :=
  if length ≤ 4096 then min (length - length / 2) 64
  else
    let shift := (1 + length.log2) / 2
    ((1 <<< shift) + (length >>> shift)) / 2

/-- Sorts by runs. Unsorted ones are sorted as told. -/
def byRuns? (eager : Bool) (items : List α) : Option (List α) := do
  match ← runs? cmp eager (enoughFor items.length) items with
  | [] => return []
  | first :: later =>
    let run ← mergeRuns? cmp sort? items.length 0 [] first later
    run.inOrder? sort?

end DocUpdate.StableSort
