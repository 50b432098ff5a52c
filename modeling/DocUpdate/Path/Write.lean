import DocUpdate.Path.Read

/-!
# Writing and removing at a path

Writing creates the documents that are missing on the way and fills an array up with nulls
to reach a position, but never creates an array. Removing a field closes the gap, removing
an item leaves a null.
-/

namespace DocUpdate

/-- How many nulls one write may append to an array. -/
def maxPadding : Nat := 1500000

/-- Why a value cannot be written at a path. -/
inductive WriteFault where
  | blocked (at_ : Blocked)
  | fieldInScalar (part element : String) (found : Kind)
  | fieldInArray (part element : String)
  | padding
  | arrayNotCreated
deriving DecidableEq

namespace Value

/-- Puts an item at a position, with nulls in the gap before it. -/
def putItem (items : List Value) (i : Nat) (item : Value) : List Value :=
  if i < items.length then items.set i item
  else items ++ List.replicate (i - items.length) null ++ [item]

/-- Writes below the value that `element` led to, in place: what is missing on the way is
created before the walk goes on. The value is answered as the walk leaves it, also after a
fault. -/
def writeFrom (value : Value) (element : String) :
    Value → List Segment → Except WriteFault Unit × Value
  | _, [] => (.ok (), value)
  | document fields, [s] => (.ok (), document (Fields.insert fields s.name value))
  | document fields, s :: t :: rest =>
    let opened := if Fields.contains fields s.name then fields
      else Fields.insert fields s.name (document [])
    let (outcome, part) :=
      writeFrom value s.name ((Fields.get? opened s.name).getD null) (t :: rest)
    (outcome, document (Fields.insert opened s.name part))
  | array items, s :: rest =>
    match arrayIndex? s.name with
    | none => (.error (.fieldInArray s.name element), array items)
    | some i =>
      if maxPadding < i - items.length then (.error .padding, array items)
      else
        match rest with
        | [] => (.ok (), array (putItem items i value))
        | t :: rest =>
          let opened := if i < items.length then items else putItem items i (document [])
          let (outcome, part) := writeFrom value s.name (opened[i]?.getD null) (t :: rest)
          (outcome, array (opened.set i part))
  | v, s :: _ => (.error (.fieldInScalar s.name element v.kind), v)

/-- Removes the part that a segment names, if it is there. -/
def dropChild? (v : Value) (name : String) : Option Value :=
  match v with
  | document fields =>
    if Fields.contains fields name then some (document (Fields.erase fields name)) else none
  | array items =>
    (arrayIndex? name).bind fun i =>
      if i < items.length then some (array (items.set i null)) else none
  | _ => none

/-- Removes what the segments lead to, if it is there. -/
def removeFrom (v : Value) (s : Segment) : List Segment → Option Value
  | [] => v.dropChild? s.name
  | t :: rest =>
    match v.child? s.name with
    | some (some part) => (removeFrom part t rest).map (v.putChild s.name)
    | _ => none

end Value

namespace Fields

/-- Writes a value at a path, in place. The document is answered as the walk leaves it. -/
def write (doc : Fields) (p : Path) (value : Value) : Except WriteFault Unit × Fields :=
  match p.tail with
  | [] => (.ok (), doc.insert p.head.name value)
  | s :: rest =>
    let opened := if doc.contains p.head.name then doc
      else doc.insert p.head.name (.document [])
    let (outcome, part) := Value.writeFrom value p.head.name
      ((opened.get? p.head.name).getD .null) (s :: rest)
    (outcome, opened.insert p.head.name part)

/-- The document without the value at a path, or nothing if there was none. -/
def remove? (doc : Fields) (p : Path) : Option Fields :=
  match p.tail with
  | [] => if doc.contains p.head.name then some (doc.erase p.head.name) else none
  | s :: rest =>
    match doc.get? p.head.name with
    | some v => (v.removeFrom s rest).map (doc.insert p.head.name)
    | none => none

end Fields

end DocUpdate
