import DocUpdate.Number.Power
import DocUpdate.Text.Digits

/-!
# Dotted paths

A path names a place in a document by one or more segments. A segment of digits is the
position of an item inside an array and the name of a field inside a document.
-/

namespace DocUpdate

/-- One step of a path: a name that is not empty and does not start with a dollar sign. -/
structure Segment where
  name : String
  ne_empty : name.toList ≠ []
  no_dollar : name.toList.head? ≠ some '$'
deriving DecidableEq

/-- A path has at least one segment. -/
structure Path where
  head : Segment
  tail : List Segment
deriving DecidableEq

/-- Why a text is not a path. -/
inductive PathFault where
  | emptyPath
  | emptyName
  /-- A segment that stands for whichever items matched. -/
  | positional (segment : String)
  | dollarName (segment : String)
deriving DecidableEq

/-! ## Reading -/

/-- The pieces between the separators. There is one more of them than separators. -/
def pieces (separator : Char) : List Char → List (List Char)
  | [] => [[]]
  | c :: cs =>
    if c = separator then [] :: pieces separator cs
    else match pieces separator cs with
      | [] => [[c]]
      | piece :: rest => (c :: piece) :: rest

/-- The segments `$`, `$[]` and `$[name]`. -/
def isPositional (cs : List Char) : Bool :=
  cs == ['$'] || (['$', '['].isPrefixOf cs && cs.getLast? == some ']')

def Segment.parse (cs : List Char) : Except PathFault Segment :=
  if h₀ : cs = [] then .error .emptyName
  else if isPositional cs then .error (.positional (String.ofList cs))
  else if h₁ : cs.head? = some '$' then .error (.dollarName (String.ofList cs))
  else .ok ⟨String.ofList cs, by simpa using h₀, by simpa using h₁⟩

namespace Path

/-- Reads a dotted path. The first segment that is not a name decides the fault. -/
def parse (text : String) : Except PathFault Path :=
  if text.toList = [] then .error .emptyPath
  else do
    match ← (pieces '.' text.toList).mapM Segment.parse with
    | [] => .error .emptyPath
    | head :: tail => .ok ⟨head, tail⟩

def segments (p : Path) : List Segment := p.head :: p.tail

def names (p : Path) : List String := p.segments.map (·.name)

def text (p : Path) : String := String.intercalate "." p.names

/-! ## Paths that share a place -/

/-- One list continues the other. -/
def agree : List Segment → List Segment → Bool
  | s :: ss, t :: ts => s == t && agree ss ts
  | _, _ => true

/-- The paths are equal, or one leads through the other. -/
def overlaps (p q : Path) : Bool := agree p.segments q.segments

theorem agree_comm (ss ts : List Segment) : agree ss ts = agree ts ss := by
  induction ss generalizing ts with
  | nil => cases ts <;> rfl
  | cons s ss ih =>
    cases ts with
    | nil => rfl
    | cons t ts => simp [agree, ih ts, Bool.beq_comm]

theorem overlaps_comm (p q : Path) : p.overlaps q = q.overlaps p := agree_comm _ _

end Path

/-! ## Positions -/

/-- The position that a segment names inside an array: digits without a leading zero, in
64 bits. -/
def arrayIndex? (name : String) : Option Nat :=
  let cs := name.toList
  if 1 < cs.length ∧ cs.head? = some '0' then none
  else (natural? cs).filter (· < pow2 64)

end DocUpdate
