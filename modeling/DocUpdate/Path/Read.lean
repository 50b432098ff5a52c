import DocUpdate.Path.Basic
import DocUpdate.Value.Basic

/-!
# Reading at a path

A walk goes through documents by name and through arrays by position. It ends early where
nothing is found, and is blocked by a value that has no parts.
-/

namespace DocUpdate

/-- Where a walk was stopped by a value without parts. -/
structure Blocked where
  /-- The segment that could not be followed. -/
  part : String
  /-- The segment that led to the value. -/
  element : String
  found : Kind
deriving DecidableEq

namespace Value

/-- The part of a value that a segment names. The outer option is empty for a value that has
no parts, the inner one where the part is missing. -/
def child? (v : Value) (name : String) : Option (Option Value) :=
  match v with
  | document fields => some (Fields.get? fields name)
  | array items => some ((arrayIndex? name).bind fun i => items[i]?)
  | _ => none

/-- Replaces a part that is there. -/
def putChild (v : Value) (name : String) (part : Value) : Value :=
  match v with
  | document fields => document (Fields.insert fields name part)
  | array items =>
    match arrayIndex? name with
    | some i => array (items.set i part)
    | none => v
  | _ => v

/-- Follows segments from the value that `element` led to. -/
def readFrom (element : String) (v : Value) : List Segment → Except Blocked (Option Value)
  | [] => .ok (some v)
  | s :: rest =>
    match v.child? s.name with
    | none => .error ⟨s.name, element, v.kind⟩
    | some none => .ok none
    | some (some part) => readFrom s.name part rest

/-- Changes the value that the segments lead to, if there is one. -/
def modifyFrom (f : Value → Value) (element : String) (v : Value) :
    List Segment → Except Blocked (Option Value)
  | [] => .ok (some (f v))
  | s :: rest =>
    match v.child? s.name with
    | none => .error ⟨s.name, element, v.kind⟩
    | some none => .ok none
    | some (some part) =>
      (modifyFrom f s.name part rest).map fun changed => changed.map (v.putChild s.name)

end Value

namespace Fields

/-- The value at a path, if there is one. -/
def read (doc : Fields) (p : Path) : Except Blocked (Option Value) :=
  match doc.get? p.head.name with
  | none => .ok none
  | some v => v.readFrom p.head.name p.tail

/-- Changes the value at a path where it stands, if there is one. -/
def modify (doc : Fields) (p : Path) (f : Value → Value) : Except Blocked (Option Fields) :=
  match doc.get? p.head.name with
  | none => .ok none
  | some v =>
    (v.modifyFrom f p.head.name p.tail).map fun changed => changed.map (doc.insert p.head.name)

/-- Puts another value in the place of the one at a path, if there is one. -/
def replace (doc : Fields) (p : Path) (value : Value) : Except Blocked (Option Fields) :=
  doc.modify p fun _ => value

/-- The value at a path, taking a blocked walk for a missing value. -/
def readOrMissing (doc : Fields) (p : Path) : Option Value :=
  match doc.read p with
  | .ok found => found
  | .error _ => none

end Fields

end DocUpdate
