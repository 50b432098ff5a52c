/-!
# Update operators

The keys of an update document.
-/

namespace DocUpdate

inductive Operator where
  | set | unset | setOnInsert | currentDate | inc | mul | min | max | rename | bit | addToSet
  | push | pop | pull | pullAll
deriving DecidableEq

namespace Operator

def all : List Operator :=
  [set, unset, setOnInsert, currentDate, inc, mul, min, max, rename, bit, addToSet, push, pop,
    pull, pullAll]

def name : Operator → String
  | set => "$set"
  | unset => "$unset"
  | setOnInsert => "$setOnInsert"
  | currentDate => "$currentDate"
  | inc => "$inc"
  | mul => "$mul"
  | min => "$min"
  | max => "$max"
  | rename => "$rename"
  | bit => "$bit"
  | addToSet => "$addToSet"
  | push => "$push"
  | pop => "$pop"
  | pull => "$pull"
  | pullAll => "$pullAll"

def ofName? (name : String) : Option Operator := all.find? (·.name == name)

theorem ofName?_name (op : Operator) : ofName? op.name = some op := by cases op <;> rfl

end Operator

end DocUpdate
