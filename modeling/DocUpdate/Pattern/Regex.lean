import DocUpdate.Pattern.Place

/-!
# Regular expressions

A pattern is asked one question: does it match somewhere in a text. So matching is the set
of places that can be reached from a set of places, and preference among matches plays no part.
-/

namespace DocUpdate

inductive Regex where
  | empty
  /-- One character after another. -/
  | literal (chars : List Char)
  | set (chars : CharSet)
  | assertion (condition : Assertion)
  | repetition (body : Regex) (least : Nat) (most : Option Nat)
  /-- A group whose match could be asked for. -/
  | capture (body : Regex)
  | concat (parts : List Regex)
  | alternation (branches : List Regex)

namespace Regex

/-- Takes a step a number of times. -/
def again (step : List Cursor → List Cursor) : Nat → List Cursor → List Cursor
  | 0, places => places
  | n + 1, places => again step n (step places)

/-- The places seen so far and everything within a number of steps of the fresh ones among
them. A step leads on from places that are new only. -/
def within (step : List Cursor → List Cursor) : Nat → List Cursor → List Cursor → List Cursor
  | 0, seen, _ => seen
  | n + 1, seen, fresh =>
    match Cursor.without (step fresh) seen with
    | [] => seen
    | next => within step n (Cursor.unite seen next) next

/-- As many turns as there are characters after the first of some places, and one. A repetition
that turns more often takes a turn without a character, so it reaches no other place. -/
def turns (places : List Cursor) : Nat :=
  match places with
  | [] => 0
  | c :: _ => c.rest.length + 1

mutual

/-- The places where a match can end that begins at one of the places. -/
def reach : Regex → List Cursor → List Cursor
  | empty, places => places
  | literal chars, places =>
    chars.foldl (fun places c => places.filterMap (Cursor.advance (· == c))) places
  | set chars, places => places.filterMap (Cursor.advance chars.mem)
  | assertion condition, places => places.filter condition.holds
  | repetition body least most, places =>
    let begun := again body.reach (min least (turns places)) places
    let optional := match most with
      | some n => min (n - least) (turns begun)
      | none => turns begun
    within body.reach optional begun begun
  | capture body, places => body.reach places
  | concat parts, places => reachThrough parts places
  | alternation branches, places => reachAny branches places

/-- The places that a match of one part after another leads to. -/
def reachThrough : List Regex → List Cursor → List Cursor
  | [], places => places
  | r :: rs, places => reachThrough rs (r.reach places)

/-- The places that a match of any branch leads to. -/
def reachAny : List Regex → List Cursor → List Cursor
  | [], _ => []
  | r :: rs, places => Cursor.unite (r.reach places) (reachAny rs places)

end

/-- The expression matches a part of the text. -/
def isMatch (r : Regex) (text : String) : Bool :=
  !(r.reach (Cursor.places text.toList)).isEmpty

end Regex

end DocUpdate
