import DocUpdate.Update.Edit
import DocUpdate.Update.Items
import DocUpdate.Value.Same

/-!
# Edits of arrays

Operators that add items create the array they need. Operators that remove items leave a
missing array alone.
-/

namespace DocUpdate.Edit

/-- Creates an empty array where nothing is, and tells whether it did. -/
def ensureArray (op : Operator) (path : Path) : Edit Bool := do
  match ← readForWrite path with
  | none => write path (.array [])
  | some (.array _) => return false
  | some found => mismatch op path (.notArray found.kind)

/-- The array at a path, created empty if it is missing, and whether it was. -/
def openArray (op : Operator) (path : Path) : Edit (List Value × Bool) := do
  let created ← ensureArray op path
  match ← readForWrite path with
  | some (.array items) => return (items, created)
  | some found => mismatch op path (.notArray found.kind)
  | none => fail (.unwritable path .arrayNotCreated)

/-- The array at a path, if there is one. -/
def existingArray (op : Operator) (path : Path) : Edit (Option (List Value)) := do
  match ← read path with
  | none => return none
  | some (.array items) => return some items
  | some found => mismatch op path (.notArray found.kind)

def addToSet (path : Path) (values : List Value) : Edit Bool := do
  let (items, created) ← openArray .addToSet path
  let result := Items.union items values
  assign path (.array result)
  return created || items.length != result.length

/-- Without sorting and slicing any inserted item is a change. -/
def push (path : Path) (p : Push) : Edit Bool := do
  let (items, created) ← openArray .push path
  match p.result? items with
  | none => stop
  | some result =>
    assign path (.array result)
    let changed := if p.sort.isSome || p.slice.isSome then !Value.sameItems items result
      else !p.each.isEmpty
    return created || changed

/-- Takes items out of an array and tells whether any went. -/
def shrink (op : Operator) (path : Path) (f : List Value → List Value) : Edit Bool := do
  match ← existingArray op path with
  | none => return false
  | some items =>
    let result := f items
    assign path (.array result)
    return items.length != result.length

def pop (path : Path) (side : End) : Edit Bool := shrink .pop path (Items.pop side)

def pull (path : Path) (condition : Condition) : Edit Bool :=
  shrink .pull path (Items.pull condition)

def pullAll (path : Path) (values : List Value) : Edit Bool :=
  shrink .pullAll path (Items.pullAll values)

end DocUpdate.Edit
