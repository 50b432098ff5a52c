import DocUpdate.Pattern.Regex

/-!
# What a match takes up

Some things about every match of an expression can be seen from its form: whether it takes up
characters, and whether it begins or ends with the text.
-/

namespace DocUpdate

/-- What can be seen of the matches of an expression. -/
structure Extent where
  /-- Some set in the expression is empty. -/
  hopeless : Bool
  /-- Every match takes up a character. -/
  taking : Bool
  /-- No match takes up a character. -/
  zeroWidth : Bool
  /-- Every match begins where the text begins. -/
  fromStart : Bool
  /-- Every match ends where the text ends. -/
  toEnd : Bool

namespace Extent

/-- A character that has to be there. -/
def char (hopeless : Bool) : Extent := ⟨hopeless, true, false, false, false⟩

def zero (fromStart toEnd : Bool) : Extent := ⟨false, false, true, fromStart, toEnd⟩

/-- One of the parts without a character before it begins with the text. -/
def leads : List Extent → Bool
  | [] => false
  | e :: rest => e.fromStart || (e.zeroWidth && leads rest)

/-- One of the parts without a character after it, in reverse order, ends with the text. -/
def trails : List Extent → Bool
  | [] => false
  | e :: rest => e.toEnd || (e.zeroWidth && trails rest)

/-- One part after another. -/
def row (parts : List Extent) : Extent :=
  ⟨parts.any (·.hopeless), parts.any (·.taking), parts.all (·.zeroWidth), leads parts,
    trails parts.reverse⟩

/-- Any of the branches. -/
def choice (branches : List Extent) : Extent :=
  ⟨branches.any (·.hopeless), branches.all (·.taking), branches.all (·.zeroWidth),
    branches.all (·.fromStart), branches.all (·.toEnd)⟩

/-- What does not have to be there holds no match to anything. -/
def repeated (e : Extent) (least : Nat) : Extent :=
  let needed := 0 < least
  ⟨e.hopeless, needed && e.taking, e.zeroWidth, needed && e.fromStart, needed && e.toEnd⟩

end Extent

namespace Regex

mutual

def extent : Regex → Extent
  | empty => .zero false false
  | literal _ => .char false
  | set chars => .char chars.ranges.isEmpty
  | assertion condition => .zero (condition == .textStart) (condition == .textEnd)
  | repetition body least _ => body.extent.repeated least
  | capture body => body.extent
  | concat parts => .row (extents parts)
  | alternation branches => .choice (extents branches)

def extents : List Regex → List Extent
  | [] => []
  | r :: rs => r.extent :: extents rs

end

end Regex

end DocUpdate
