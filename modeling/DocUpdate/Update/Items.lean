import DocUpdate.Condition.Matching
import DocUpdate.StableSort.Quick
import DocUpdate.Update.Basic
import DocUpdate.Value.Order

/-!
# Lists of items

What the array operators do to the items of an array, apart from finding the array.
-/

namespace DocUpdate

namespace Direction

def apply (direction : Direction) (o : Ordering) : Ordering :=
  match direction with
  | ascending => o
  | descending => o.swap

end Direction

namespace Sorting

/-- What an item is sorted by. Missing fields and items that are no documents sort as null. -/
def keyOf (path : Path) (item : Value) : Value :=
  match item with
  | .document fields => (Fields.readOrMissing fields path).getD .null
  | _ => .null

/-- Key by key, the first difference decides. -/
def cmpByFields (a b : Value) : List SortKey → Ordering
  | [] => .eq
  | key :: rest =>
    (key.direction.apply ((keyOf key.path a).cmp (keyOf key.path b))).then (cmpByFields a b rest)

def cmp (sorting : Sorting) (a b : Value) : Ordering :=
  match sorting with
  | whole direction => direction.apply (a.cmp b)
  | byFields keys => cmpByFields a b keys

/-- Sorts items. Items that compare equal keep their order. -/
def sort? (sorting : Sorting) (items : List Value) : Option (List Value) :=
  StableSort.sort? sorting.cmp items

end Sorting

namespace Push

/-- Where to insert: a position outside the list means its nearer end. -/
def insertionPoint (length : Nat) (position : Option Int) : Nat :=
  match position with
  | none => length
  | some p => if p < 0 then length - p.natAbs else min p.toNat length

/-- The first items, or the last ones for a negative number. -/
def keep (n : Int) (items : List Value) : List Value :=
  if n < 0 then items.drop (items.length - n.natAbs) else items.take n.toNat

/-- The items with the new ones among them. -/
def inserted (p : Push) (items : List Value) : List Value :=
  let k := insertionPoint items.length p.position
  items.take k ++ p.each ++ items.drop k

/-- The items before they are sliced. -/
def sorted? (p : Push) (items : List Value) : Option (List Value) :=
  match p.sort with
  | some sorting => sorting.sort? (p.inserted items)
  | none => some (p.inserted items)

/-- What is kept of items that are sorted. -/
def sliced (p : Push) (sorted : List Value) : List Value :=
  match p.slice with
  | some n => keep n sorted
  | none => sorted

/-- Inserts, sorts and slices, unless sorting stops. -/
def result? (p : Push) (items : List Value) : Option (List Value) :=
  (p.sorted? items).map p.sliced

end Push

namespace Items

/-- Appends the values that are not equal to an item before them. -/
def union (items : List Value) : List Value → List Value
  | [] => items
  | v :: vs => if items.any (·.equal v) then union items vs else union (items ++ [v]) vs

/-- Without the item at one end. -/
def pop (side : End) (items : List Value) : List Value :=
  match side with
  | .first => items.tail
  | .last => items.dropLast

def pull (condition : Condition) (items : List Value) : List Value :=
  items.filter fun item => !condition.matches item

def pullAll (values items : List Value) : List Value :=
  items.filter fun item => !values.any (item.equal ·)

end Items

end DocUpdate
