import DocUpdate.Number.Power
import DocUpdate.Pattern.Bracket
import DocUpdate.Pattern.Size
import DocUpdate.Text.Digits

/-!
# Reading regular expressions

The text of a pattern becomes an expression with its flags already worked in. Groups may
change flags up to their end. Anything that is not an expression is refused as a whole, and so
are patterns that are nested too deep or stand for too much.
-/

namespace DocUpdate.Pattern

/-! ## Groups -/

/-- The flags at the start of a group: the flags to use, whether any was given, whether a
group follows, and the rest. -/
def readFlags (seen : List Char) (negated dangling : Bool) (flags : Flags) :
    List Char → Option (Flags × Bool × Bool × List Char)
  | [] => none
  | c :: cs =>
    if c = ':' ∨ c = ')' then
      if dangling then none else some (flags, !seen.isEmpty, c = ':', cs)
    else if c = '-' then
      if negated then none else readFlags seen true true flags cs
    else if seen.contains c then none
    else do
      let flags ← flags.set? c (!negated)
      readFlags (c :: seen) negated false flags cs

/-- Characters of the name of a group. -/
def isNameChar (first : Bool) (c : Char) : Bool :=
  c == '_' || Unicode.Property.alphabetic.mem c ||
    (!first && (c == '.' || c == '[' || c == ']' || Unicode.numeric.mem c))

def readName (cs : List Char) : Option (String × List Char) :=
  let name := cs.takeWhile (· != '>')
  match cs.dropWhile (· != '>'), name with
  | '>' :: rest, first :: more =>
    if isNameChar true first && more.all (isNameChar false) then
      some (String.ofList name, rest)
    else none
  | _, _ => none

/-- What an opening parenthesis begins. -/
inductive Opening where
  /-- A change of flags without a group. -/
  | flags (flags : Flags)
  | group (flags : Flags)
  /-- A group that is captured, by its name if it has one. -/
  | capture (name : Option String)

/-- Reads what follows an opening parenthesis. Looking around is not supported. -/
def readOpening (flags : Flags) (cs : List Char) : Option (Opening × List Char) :=
  match blank flags cs with
  | '?' :: '=' :: _ | '?' :: '!' :: _ | '?' :: '<' :: '=' :: _ | '?' :: '<' :: '!' :: _ => none
  | '?' :: 'P' :: '<' :: rest | '?' :: '<' :: rest => do
    let (name, rest) ← readName rest
    some (.capture (some name), rest)
  | '?' :: rest => do
    let (changed, given, isGroup, rest) ← readFlags [] false false flags rest
    if isGroup then some (.group changed, rest)
    else if given then some (.flags changed, rest)
    else none
  | cs => some (.capture none, cs)

/-! ## Repetitions -/

/-- Digits, with what the flags allow between them. -/
def spacedDigits (flags : Flags) : Nat → List Char → List Char × List Char
  | 0, cs => ([], cs)
  | fuel + 1, cs =>
    match cs with
    | c :: rest =>
      if c.isDigit then
        let (ds, rest) := spacedDigits flags fuel (blank flags rest)
        (c :: ds, rest)
      else ([], cs)
    | [] => ([], cs)

/-- A number inside braces, with blanks around it. -/
def readCount (flags : Flags) (cs : List Char) : Option Nat × List Char :=
  let (ds, rest) := spacedDigits flags cs.length (cs.dropWhile Unicode.isSpace)
  ((natural? ds).filter (· < pow2 32), blank flags (rest.dropWhile Unicode.isSpace))

/-- Drops the mark of lazy repetition. -/
def dropLazy : List Char → List Char
  | '?' :: rest => rest
  | cs => cs

/-- Reads how often to repeat, after an opening brace. -/
def readBounds (flags : Flags) (cs : List Char) : Option (Nat × Option Nat × List Char) :=
  match readCount flags (blank flags cs) with
  | (some least, '\x7d' :: rest) => some (least, some least, dropLazy (blank flags rest))
  | (some least, ',' :: rest) =>
    match blank flags rest with
    | '\x7d' :: rest => some (least, none, dropLazy (blank flags rest))
    | rest =>
      match readCount flags rest with
      | (some most, '\x7d' :: rest) =>
        if least ≤ most then some (least, some most, dropLazy (blank flags rest)) else none
      | _ => none
  | _ => none

/-! ## Parts -/

/-- A part of a pattern, with the number of levels within it. -/
structure Part where
  regex : Regex
  depth : Nat
  /-- A change of flags counts as a part and cannot be repeated. -/
  repeatable : Bool

namespace Part

def leaf (r : Regex) : Part := ⟨r, 0, true⟩

def flags : Part := ⟨.empty, 0, false⟩

/-- Puts parts together, on a level of their own unless there is only one. -/
def join? (combine : List Regex → Regex) : List Part → Option Part
  | [part] => some part
  | parts => do
    let depth ← depthOf? parts.length ((parts.map (·.depth)).foldl max 0)
    some ⟨combine (parts.map (·.regex)), depth, true⟩

/-- A part within one that adds a level. -/
def wrap? (change : Regex → Regex) (part : Part) : Option Part :=
  (deeper? part.depth).map fun depth => ⟨change part.regex, depth, true⟩

end Part

/-- An open group. -/
structure Frame where
  /-- How the group ends up as an expression. -/
  captured : Bool
  /-- The branches before the current one, from last to first. -/
  branches : List Part
  /-- The parts of the current branch, from last to first. -/
  parts : List Part

namespace Frame

def start (captured : Bool) : Frame := ⟨captured, [], []⟩

def add (frame : Frame) (part : Part) : Frame := { frame with parts := part :: frame.parts }

def branch? (frame : Frame) : Option Part := Part.join? .row frame.parts.reverse

/-- What the group holds. -/
def content? (frame : Frame) : Option Part := do
  let branch ← frame.branch?
  Part.join? .either (branch :: frame.branches).reverse

/-- The group as a part of the one around it. -/
def close? (frame : Frame) : Option Part := do
  let content ← frame.content?
  content.wrap? fun r => if frame.captured then .capture r else r

def nextBranch? (frame : Frame) : Option Frame := do
  let branch ← frame.branch?
  some { frame with branches := branch :: frame.branches, parts := [] }

/-- Repeats the last part. There has to be one. -/
def repeatLast? (frame : Frame) (least : Nat) (most : Option Nat) : Option Frame :=
  match frame.parts with
  | [] => none
  | part :: parts =>
    if part.repeatable then do
      let part ← part.wrap? fun r => r.repeated least most
      some { frame with parts := part :: parts }
    else none

end Frame

/-! ## Patterns -/

/-- The reader between two parts of a pattern. -/
structure State where
  flags : Flags
  frame : Frame
  /-- The open groups around this one, with the flags to return to. -/
  outer : List (Flags × Frame)
  names : List String

namespace State

def add (state : State) (part : Part) : State := { state with frame := state.frame.add part }

def openGroup (state : State) (flags : Flags) (captured : Bool) (names : List String) : State :=
  ⟨flags, .start captured, (state.flags, state.frame) :: state.outer, names⟩

def closeGroup? (state : State) : Option State :=
  match state.outer with
  | [] => none
  | (flags, frame) :: outer => do
    let group ← state.frame.close?
    some ⟨flags, frame.add group, outer, state.names⟩

def applyOpening? (state : State) : Opening → Option State
  | .flags flags => some { state.add .flags with flags := flags }
  | .group flags => some (state.openGroup flags false state.names)
  | .capture none => some (state.openGroup state.flags true state.names)
  | .capture (some name) =>
    if state.names.contains name then none
    else some (state.openGroup state.flags true (name :: state.names))

/-- The expression of a character that stands for itself, or for either case of itself. -/
def character (flags : Flags) (c : Char) : Regex :=
  if flags.ignoreCase then .ofSet (flags.fold (.single c)) else .literal [c]

/-- The expression of one character or a condition on the place. -/
def single (flags : Flags) (c : Char) : Option Regex :=
  match c with
  | '.' =>
    let ends := if flags.crlf then CharSet.union (.single '\r') (.single '\n') else .single '\n'
    (flags.excluding true (if flags.dotAll then .empty else ends)).map .ofSet
  | '^' =>
    some (.assertion (if flags.multiLine then
      if flags.crlf then .crlfLineStart else .lineStart else .textStart))
  | '$' =>
    some (.assertion (if flags.multiLine then
      if flags.crlf then .crlfLineEnd else .lineEnd else .textEnd))
  | c => some (character flags c)

def escaped (flags : Flags) : Escape → Regex
  | .char c => character flags c
  | .set set => .ofSet set
  | .assertion condition => .assertion condition

/-- Reads one part of a pattern and returns the rest. -/
def step (state : State) (c : Char) (rest : List Char) : Option (State × List Char) :=
  match c with
  | '(' => do
    let (opening, rest) ← readOpening state.flags rest
    let state ← state.applyOpening? opening
    some (state, rest)
  | ')' => state.closeGroup?.map (·, rest)
  | '|' => state.frame.nextBranch?.map fun frame => ({ state with frame := frame }, rest)
  | '[' => do
    let (part, rest) ← readClass state.flags rest
    some (state.add ⟨.ofSet part.chars, part.depth, true⟩, rest)
  | '?' => repeated 0 (some 1) (dropLazy rest)
  | '*' => repeated 0 none (dropLazy rest)
  | '+' => repeated 1 none (dropLazy rest)
  | '\x7b' => do
    let (least, most, rest) ← readBounds state.flags rest
    repeated least most rest
  | '\\' => do
    let (escape, rest) ← readEscape state.flags rest
    some (state.add (.leaf (escaped state.flags escape)), rest)
  | c => (single state.flags c).map fun r => (state.add (.leaf r), rest)
where
  repeated (least : Nat) (most : Option Nat) (rest : List Char) : Option (State × List Char) :=
    (state.frame.repeatLast? least most).map fun frame => ({ state with frame := frame }, rest)

/-- Reads a pattern to its end. Every step takes at least one character. -/
def run : Nat → State → List Char → Option Regex
  | 0, _, _ => none
  | fuel + 1, state, cs =>
    match blank state.flags cs with
    | [] => if state.outer.isEmpty then state.frame.content?.map (·.regex) else none
    | c :: rest => do
      let (state, rest) ← state.step c rest
      run fuel state rest

end State

/-- The expression that a text denotes, if it denotes one that is not too large. -/
def read? (text : String) : Option Regex :=
  let cs := text.toList
  (State.run (cs.length + 1) ⟨.initial, .start false, [], []⟩ cs).filter (·.fits)

end DocUpdate.Pattern
