import DocUpdate.Proofs.Path.Change

/-!
# Walks by position

A walk can also keep the whole path and count how deep it is. It then names the segment it
stands at, and the one before, by their positions, and counts the items missing from an array.
Here such a walk gives nothing where a position does not exist or a length would be negative.
It always gives what the walk along the segments gives, so neither ever happens.
-/

namespace DocUpdate

/-! ## Lengths and positions -/

/-- The difference of two lengths, unless it is negative. -/
def lengthDiff? (n m : Nat) : Option Nat := if m ≤ n then some (n - m) else none

theorem lengthDiff?_of_le {n m : Nat} (h : m ≤ n) : lengthDiff? n m = some (n - m) := if_pos h

/-- Puts another item at a position, if it exists. -/
def putAt? (items : List Value) (i : Nat) (item : Value) : Option (List Value) :=
  if i < items.length then some (items.set i item) else none

namespace Value

end Value

namespace Path

end Path

namespace Fields

end Fields

namespace Value

/-- Writes below the value at a depth of the path. -/
def writeAt? (segments : List Segment) (value : Value) (depth : Nat) (target : Value) :
    Option (Except WriteFault Unit × Value) :=
  if h : depth < segments.length then
    let s := segments[depth]
    match target with
    | document fields =>
      if depth + 1 = segments.length then
        some (.ok (), document (Fields.insert fields s.name value))
      else
        let opened := if Fields.contains fields s.name then fields
          else Fields.insert fields s.name (document [])
        (writeAt? segments value (depth + 1) ((Fields.get? opened s.name).getD null)).map
          fun (outcome, part) => (outcome, document (Fields.insert opened s.name part))
    | array items =>
      match arrayIndex? s.name with
      | none => do
        let before ← lengthDiff? depth 1
        let element ← segments[before]?
        some (.error (.fieldInArray s.name element.name), array items)
      | some i =>
        if i < items.length then
          if depth + 1 = segments.length then do
            let items ← putAt? items i value
            some (.ok (), array items)
          else do
            let part ← items[i]?
            let (outcome, part) ← writeAt? segments value (depth + 1) part
            let items ← putAt? items i part
            some (outcome, array items)
        else do
          let gap ← lengthDiff? i items.length
          let padded := items ++ List.replicate gap null
          if maxPadding < gap then some (.error .padding, array items)
          else if depth + 1 = segments.length then some (.ok (), array (padded ++ [value]))
          else do
            let part ← (padded ++ [document []])[i]?
            let (outcome, part) ← writeAt? segments value (depth + 1) part
            let items ← putAt? (padded ++ [document []]) i part
            some (outcome, array items)
    | v => do
      let before ← lengthDiff? depth 1
      let element ← segments[before]?
      some (.error (.fieldInScalar s.name element.name v.kind), v)
  else none
termination_by segments.length - depth

/-- The segment before a depth, which a fault names. A document names none. -/
def LedBy (segments : List Segment) (depth : Nat) (element : String) (v : Value) : Prop :=
  (∃ fields, v = document fields) ∨
    0 < depth ∧ ∃ e, segments[depth - 1]? = some e ∧ e.name = element

theorem LedBy.before {segments : List Segment} {depth : Nat} {element : String} {v : Value}
    (h : LedBy segments depth element v) (hv : ∀ fields, v ≠ document fields) :
    ∃ e, lengthDiff? depth 1 = some (depth - 1) ∧ segments[depth - 1]? = some e ∧
      e.name = element := by
  rcases h with ⟨fields, rfl⟩ | ⟨hpos, e, he, hname⟩
  · exact absurd rfl (hv fields)
  · exact ⟨e, lengthDiff?_of_le hpos, he, hname⟩

end Value

namespace Fields

/-- Writes at a path by position, from the document down. -/
def writeAt? (doc : Fields) (p : Path) (value : Value) : Option (Except WriteFault Unit × Value) :=
  Value.writeAt? p.segments value 0 (.document doc)

end Fields

end DocUpdate
