import DocUpdate.Condition.Basic
import DocUpdate.Operator
import DocUpdate.Path.Basic
import DocUpdate.Value.Basic

/-!
# Mutations

An update document is a list of mutations: a path and what to do there. Operands have been
read and checked.
-/

namespace DocUpdate

/-- What the current date is written as. -/
inductive DateKind where
  | date
  | timestamp
deriving DecidableEq

/-- A bitwise operation. -/
inductive BitOp where
  | and
  | or
  | xor
deriving DecidableEq

inductive Direction where
  | ascending
  | descending
deriving DecidableEq

/-- A field to sort by. -/
structure SortKey where
  path : Path
  direction : Direction
deriving DecidableEq

/-- How the items of an array are sorted. -/
inductive Sorting where
  | whole (direction : Direction)
  | byFields (keys : List SortKey)
deriving DecidableEq

/-- Items to insert into an array. Afterwards it is sorted and then sliced. -/
structure Push where
  each : List Value
  /-- Counted from the end if negative, the end if absent. -/
  position : Option Int
  sort : Option Sorting
  /-- How many items to keep, from the end if negative. -/
  slice : Option Int

/-- An end of an array. -/
inductive End where
  | first
  | last
deriving DecidableEq

/-- What a mutation does at its path. -/
inductive Action where
  | set (value : Value)
  | unset
  | setOnInsert (value : Value)
  | currentDate (kind : DateKind)
  | inc (amount : Value)
  | mul (factor : Value)
  | min (value : Value)
  | max (value : Value)
  | rename (target : Path)
  | bit (steps : List (BitOp × Value))
  | addToSet (values : List Value)
  | push (items : Push)
  | pop (side : End)
  | pull (condition : Condition)
  | pullAll (values : List Value)

def Action.operator : Action → Operator
  | set _ => .set
  | unset => .unset
  | setOnInsert _ => .setOnInsert
  | currentDate _ => .currentDate
  | inc _ => .inc
  | mul _ => .mul
  | min _ => .min
  | max _ => .max
  | rename _ => .rename
  | bit _ => .bit
  | addToSet _ => .addToSet
  | push _ => .push
  | pop _ => .pop
  | pull _ => .pull
  | pullAll _ => .pullAll

structure Mutation where
  path : Path
  action : Action

/-- The paths that a mutation writes to. A renamed field has two. -/
def Mutation.claims (m : Mutation) : List Path :=
  match m.action with
  | .rename target => [m.path, target]
  | _ => [m.path]

/-- An update document that has been read. -/
structure UpdateSpec where
  mutations : List Mutation

/-- What the caller knows about an update. -/
structure Options where
  /-- The update creates its document. -/
  isInsert : Bool
  /-- The time of the update, in milliseconds. -/
  now : Int64

end DocUpdate
