import DocUpdate.Pattern.Escape

/-!
# Classes in brackets

A bracket lists characters, ranges and classes. Brackets nest, and what they hold can be
combined by operators. The depth of a bracket is the number of levels that it adds.
-/

namespace DocUpdate.Pattern

/-- How many levels of parts within parts a pattern may have. -/
def depthLimit : Nat := 250

/-- One level more than the parts within, unless that is too deep. -/
def deeper? (depth : Nat) : Option Nat := if depth < depthLimit then some (depth + 1) else none

/-- The depth of several parts side by side, which form a level of their own unless there is
only one. -/
def depthOf? (count depth : Nat) : Option Nat := if count < 2 then some depth else deeper? depth

/-- How two sets of a class are combined. -/
inductive ClassOp where
  | inter
  | diff
  | symmDiff

def ClassOp.apply : ClassOp → CharSet → CharSet → CharSet
  | inter => .inter
  | diff => .diff
  | symmDiff => .symmDiff

def classOp? : List Char → Option (ClassOp × List Char)
  | '&' :: '&' :: rest => some (.inter, rest)
  | '-' :: '-' :: rest => some (.diff, rest)
  | '~' :: '~' :: rest => some (.symmDiff, rest)
  | _ => none

/-- A set with its depth. -/
structure ClassPart where
  chars : CharSet
  depth : Nat

/-- An open bracket. -/
structure ClassFrame where
  negated : Bool
  /-- The operand on the left of the last operator. -/
  left : Option (ClassOp × ClassPart)
  /-- The ranges of the items after the last operator, and their number and greatest depth. -/
  ranges : List (Nat × Nat)
  count : Nat
  depth : Nat

namespace ClassFrame

def start (negated : Bool) : ClassFrame := ⟨negated, none, [], 0, 0⟩

def add (frame : ClassFrame) (part : ClassPart) : ClassFrame :=
  { frame with
    ranges := part.chars.ranges ++ frame.ranges
    count := frame.count + 1
    depth := max frame.depth part.depth }

/-- The set collected so far. Operators group to the left. -/
def value (flags : Flags) (frame : ClassFrame) : Option ClassPart := do
  let items := CharSet.ofRanges frame.ranges
  let depth ← depthOf? frame.count frame.depth
  match frame.left with
  | none => some ⟨items, depth⟩
  | some (op, left) =>
    let depth ← deeper? (max left.depth depth)
    some ⟨op.apply (flags.fold left.chars) (flags.fold items), depth⟩

def operator (flags : Flags) (frame : ClassFrame) (op : ClassOp) : Option ClassFrame :=
  (frame.value flags).map fun left => ⟨frame.negated, some (op, left), [], 0, 0⟩

/-- The set of a closed bracket. Case is folded before the set is negated. -/
def close (flags : Flags) (frame : ClassFrame) : Option ClassPart := do
  let part ← frame.value flags
  let chars ← flags.excluding frame.negated (flags.fold part.chars)
  let depth ← deeper? part.depth
  some ⟨chars, depth⟩

end ClassFrame

/-! ## The start of a bracket -/

/-- Hyphens at the start of a bracket stand for themselves. -/
def leadingHyphens (flags : Flags) : Nat → ClassFrame → List Char → ClassFrame × List Char
  | 0, frame, cs => (frame, cs)
  | fuel + 1, frame, cs =>
    match cs with
    | '-' :: rest => leadingHyphens flags fuel (frame.add ⟨.single '-', 0⟩) (blank flags rest)
    | _ => (frame, cs)

/-- Reads the start of a bracket. A closing bracket in first place stands for itself. -/
def openClass (flags : Flags) (cs : List Char) : Option (ClassFrame × List Char) :=
  let cs := blank flags cs
  let (negated, cs) := match cs with
    | '^' :: rest => (true, blank flags rest)
    | _ => (false, cs)
  let (frame, cs) := leadingHyphens flags cs.length (.start negated) cs
  match cs with
  | [] => none
  | ']' :: rest =>
    if frame.count ≠ 0 then some (frame, cs)
    else match blank flags rest with
      | [] => none
      | rest => some (frame.add ⟨.single ']', 0⟩, rest)
  | _ => some (frame, cs)

/-! ## Items -/

/-- A class such as `[:alpha:]`, after its bracket, and whether it is negated. -/
def asciiClass? (cs : List Char) : Option (CharSet × Bool × List Char) :=
  match cs with
  | ':' :: rest =>
    let (negated, rest) := match rest with
      | '^' :: rest => (true, rest)
      | _ => (false, rest)
    match rest.dropWhile (· != ':') with
    | ':' :: ']' :: after => do
      let set ← Unicode.Ascii.class? (String.ofList (rest.takeWhile (· != ':')))
      some (set, negated, after)
    | _ => none
  | _ => none

/-- A character or a set inside a bracket. -/
def classItem (flags : Flags) (cs : List Char) : Option ((Char ⊕ CharSet) × List Char) :=
  match cs with
  | [] => none
  | '\\' :: rest => do
    match ← readEscape flags rest with
    | (.char c, rest) => some (.inl c, rest)
    | (.set set, rest) => some (.inr set, rest)
    | (.assertion _, _) => none
  | c :: rest => some (.inl c, rest)

/-- An item or a range. A hyphen before a closing bracket or another hyphen is not a range. -/
def classRange (flags : Flags) (cs : List Char) : Option (CharSet × List Char) := do
  let (first, rest) ← classItem flags cs
  let rest := blank flags rest
  let single := match first with
    | .inl c => CharSet.single c
    | .inr set => set
  match rest with
  | '-' :: after =>
    match blank flags after with
    | [] => none
    | ']' :: _ | '-' :: _ => some (single, rest)
    | after =>
      let (last, rest) ← classItem flags after
      match first, last with
      | .inl a, .inl b => if a ≤ b then some (.range a b, rest) else none
      | _, _ => none
  | [] => none
  | _ => some (single, rest)

/-! ## Reading -/

/-- Reads the rest of a bracket inside the brackets of `outer`. -/
def classLoop (flags : Flags) :
    Nat → ClassFrame → List ClassFrame → List Char → Option (ClassPart × List Char)
  | 0, _, _, _ => none
  | fuel + 1, frame, outer, cs =>
    match blank flags cs with
    | [] => none
    | '[' :: rest =>
      match asciiClass? rest with
      | some (set, negated, rest) => do
        let set ← flags.excluding negated (flags.fold set)
        classLoop flags fuel (frame.add ⟨set, 0⟩) outer rest
      | none => do
        let (inner, rest) ← openClass flags rest
        classLoop flags fuel inner (frame :: outer) rest
    | ']' :: rest => do
      let part ← frame.close flags
      match outer with
      | [] => some (part, rest)
      | parent :: outer => classLoop flags fuel (parent.add part) outer rest
    | cs =>
      match classOp? cs with
      | some (op, rest) => do
        let frame ← frame.operator flags op
        classLoop flags fuel frame outer rest
      | none => do
        let (set, rest) ← classRange flags cs
        let set ← flags.checked set
        classLoop flags fuel (frame.add ⟨set, 0⟩) outer rest

/-- Reads a class after its opening bracket. -/
def readClass (flags : Flags) (cs : List Char) : Option (ClassPart × List Char) := do
  let (frame, rest) ← openClass flags cs
  classLoop flags (rest.length + 1) frame [] rest

end DocUpdate.Pattern
