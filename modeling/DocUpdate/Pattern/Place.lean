import DocUpdate.Unicode.CharSet

/-!
# Places in a text

A match begins and ends at a place: before a character, or at the end. Sets of places are
lists in the order of the text, without repeats. A condition can be asked of a place too.
-/

namespace DocUpdate

/-- A place in a text, with the character before it. -/
structure Cursor where
  position : Nat
  previous : Option Char
  rest : List Char

namespace Cursor

/-- Every place of a text from a given one on. -/
def placesFrom (position : Nat) (previous : Option Char) : List Char → List Cursor
  | [] => [⟨position, previous, []⟩]
  | c :: cs => ⟨position, previous, c :: cs⟩ :: placesFrom (position + 1) (some c) cs

/-- Every place of a text, the end included. -/
def places (text : List Char) : List Cursor := placesFrom 0 none text

/-- The place after the next character, if that is one of those accepted. -/
def advance (accepted : Char → Bool) (c : Cursor) : Option Cursor :=
  match c.rest with
  | x :: xs => if accepted x then some ⟨c.position + 1, some x, xs⟩ else none
  | [] => none

/-- The places of two sets. -/
def unite : List Cursor → List Cursor → List Cursor
  | [], bs => bs
  | as, [] => as
  | a :: as, b :: bs =>
    if a.position < b.position then a :: unite as (b :: bs)
    else if b.position < a.position then b :: unite (a :: as) bs
    else a :: unite as bs
termination_by as bs => as.length + bs.length

/-- The places of a set that are not in another one. -/
def without : List Cursor → List Cursor → List Cursor
  | [], _ => []
  | as, [] => as
  | a :: as, b :: bs =>
    if a.position < b.position then a :: without as (b :: bs)
    else if b.position < a.position then without (a :: as) bs
    else without as bs
termination_by as bs => as.length + bs.length

end Cursor

/-! ## Conditions on a place -/

/-- Edges of words, whole or judged from one side. -/
inductive WordEdge where
  | boundary
  | inside
  | start
  | finish
  | startHalf
  | finishHalf
deriving DecidableEq

/-- A condition on a place that takes up no characters. -/
inductive Assertion where
  | textStart
  | textEnd
  | lineStart
  | lineEnd
  /-- Line ends are `\r`, `\n` and `\r\n`. -/
  | crlfLineStart
  | crlfLineEnd
  | word (edge : WordEdge) (letters : CharSet)
deriving DecidableEq

namespace Assertion

def wordHolds (edge : WordEdge) (before after : Bool) : Bool :=
  match edge with
  | .boundary => before != after
  | .inside => before == after
  | .start => !before && after
  | .finish => before && !after
  | .startHalf => !before
  | .finishHalf => !after

def holds (a : Assertion) (c : Cursor) : Bool :=
  let next := c.rest.head?
  match a with
  | textStart => c.previous.isNone
  | textEnd => next.isNone
  | lineStart => c.previous.isNone || c.previous == some '\n'
  | lineEnd => next.isNone || next == some '\n'
  | crlfLineStart =>
    c.previous.isNone || c.previous == some '\n' || (c.previous == some '\r' && next != some '\n')
  | crlfLineEnd =>
    next.isNone || next == some '\r' || (next == some '\n' && c.previous != some '\r')
  | word edge letters => wordHolds edge (c.previous.any letters.mem) (next.any letters.mem)

end Assertion

end DocUpdate
