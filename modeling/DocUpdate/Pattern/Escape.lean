import DocUpdate.Pattern.Flags
import DocUpdate.Pattern.Place
import DocUpdate.Text.Hex
import DocUpdate.Unicode.Name

/-!
# Escapes

A backslash and what follows it stand for a character, a set of characters or a condition on
the place.
-/

namespace DocUpdate.Pattern

/-- What a backslash and the characters after it stand for. -/
inductive Escape where
  | char (c : Char)
  | set (chars : CharSet)
  | assertion (condition : Assertion)

/-- Punctuation that has a meaning somewhere in a pattern. -/
def isMeta (c : Char) : Bool :=
  ['\\', '.', '+', '*', '?', '(', ')', '|', '[', ']', '\x7b', '\x7d', '^', '$', '#', '&', '-',
    '~'].contains c

/-- Characters that a backslash may stand before without a meaning of its own. -/
def isEscapable (c : Char) : Bool :=
  isMeta c || (c.toNat < 128 && !c.isAlphanum && c != '<' && c != '>')

/-! ## Characters by number -/

/-- The character of a code point, if there is one. -/
def charOf? (n : Nat) : Option Char := if n.isValidChar then some (Char.ofNat n) else none

def isHexDigit (c : Char) : Bool := (Hex.value? c).isSome

/-- Exactly `n` hexadecimal digits. -/
def hexDigits (flags : Flags) : Nat → List Char → Option (List Char × List Char)
  | 0, cs => some ([], cs)
  | n + 1, cs =>
    match cs with
    | c :: cs =>
      if isHexDigit c then
        (hexDigits flags n (blank flags cs)).map fun (ds, rest) => (c :: ds, rest)
      else none
    | [] => none

/-- A character given by its code point, after the letter that announces `width` digits. Two
digits stand for a byte, which without the Unicode flag has to be an ASCII character. -/
def hexChar (flags : Flags) (width : Nat) (cs : List Char) : Option (Char × List Char) :=
  match blank flags cs with
  | '\x7b' :: rest => do
    let (ds, rest) ← braced flags isHexDigit (rest.length + 1) rest
    if ds.isEmpty then none
    else
      let c ← (Hex.number? ds).bind charOf?
      some (c, blank flags rest)
  | cs => do
    let (ds, rest) ← hexDigits flags width cs
    let c ← (Hex.number? ds).bind charOf?
    if width = 2 ∧ !flags.unicode ∧ 128 ≤ c.toNat then none else some (c, rest)

/-! ## Classes by name -/

/-- What stands before and after the first place where a separator stands. -/
def splitAt? (separator : List Char) : List Char → Option (List Char × List Char)
  | [] => none
  | c :: cs =>
    if separator.isPrefixOf (c :: cs) then some ([], (c :: cs).drop separator.length)
    else (splitAt? separator cs).map fun (before, after) => (c :: before, after)

/-- The class of the text in braces, and whether its characters are excluded. A property may be
followed by a value that it has, or does not have. -/
def className? (text : List Char) : Option (CharSet × Bool) :=
  match splitAt? ['!', '='] text with
  | some (property, value) => (ofValue property value).map (·, true)
  | none =>
    match (splitAt? [':'] text).or (splitAt? ['='] text) with
    | some (property, value) => (ofValue property value).map (·, false)
    | none => (Unicode.class? (String.ofList text)).map (·, false)
where
  ofValue (property value : List Char) : Option CharSet :=
    Unicode.valueClass? (String.ofList property) (String.ofList value)

/-- Reads the name of a class, a single letter or a text in braces. -/
def readClassName (flags : Flags) (cs : List Char) : Option (List Char × List Char) :=
  match blank flags cs with
  | [] => none
  | '\x7b' :: rest => braced flags (fun _ => true) (rest.length + 1) rest
  | c :: rest => if c = '\\' then none else some ([c], rest)

/-- Reads a class by name, after its letter. Classes by name need the Unicode flag. -/
def readNamed (flags : Flags) (negated : Bool) (cs : List Char) : Option (CharSet × List Char) := do
  let (text, rest) ← readClassName flags cs
  let (chars, excluded) ← className? text
  if flags.unicode then
    let chars ← flags.excluding (negated != excluded) (flags.fold chars)
    some (chars, rest)
  else none

/-! ## Edges of words -/

/-- Characters of the name of an edge. -/
def isEdgeChar (c : Char) : Bool := c.isAlpha || c == '-'

/-- A word boundary, which a name in braces may narrow down. Braces that hold no name are
left for a repetition. -/
def wordEdge (flags : Flags) (cs : List Char) : Option (WordEdge × List Char) :=
  match cs with
  | '\x7b' :: rest =>
    match blank flags rest with
    | [] => none
    | c :: _ =>
      if isEdgeChar c then do
        let (name, rest) ← braced flags isEdgeChar (rest.length + 1) rest
        let edge ← match String.ofList name with
          | "start" => some WordEdge.start
          | "end" => some WordEdge.finish
          | "start-half" => some WordEdge.startHalf
          | "end-half" => some WordEdge.finishHalf
          | _ => none
        some (edge, rest)
      else some (.boundary, cs)
  | _ => some (.boundary, cs)

/-! ## Reading -/

/-- Reads what follows a backslash. -/
def readEscape (flags : Flags) (cs : List Char) : Option (Escape × List Char) :=
  match cs with
  | [] => none
  | 'x' :: rest => (hexChar flags 2 rest).map fun (c, rest) => (.char c, rest)
  | 'u' :: rest => (hexChar flags 4 rest).map fun (c, rest) => (.char c, rest)
  | 'U' :: rest => (hexChar flags 8 rest).map fun (c, rest) => (.char c, rest)
  | 'd' :: rest => chars false flags.digits rest
  | 'D' :: rest => chars true flags.digits rest
  | 's' :: rest => chars false flags.spaces rest
  | 'S' :: rest => chars true flags.spaces rest
  | 'w' :: rest => chars false flags.letters rest
  | 'W' :: rest => chars true flags.letters rest
  | 'p' :: rest => (readNamed flags false rest).map fun (set, rest) => (.set set, rest)
  | 'P' :: rest => (readNamed flags true rest).map fun (set, rest) => (.set set, rest)
  | 'a' :: rest => some (.char '\x07', rest)
  | 'f' :: rest => some (.char '\x0c', rest)
  | 't' :: rest => some (.char '\t', rest)
  | 'n' :: rest => some (.char '\n', rest)
  | 'r' :: rest => some (.char '\r', rest)
  | 'v' :: rest => some (.char '\x0b', rest)
  | 'A' :: rest => some (.assertion .textStart, rest)
  | 'z' :: rest => some (.assertion .textEnd, rest)
  | 'b' :: rest =>
    (wordEdge flags rest).map fun (edge, rest) => (.assertion (.word edge flags.letters), rest)
  | 'B' :: rest => some (.assertion (.word .inside flags.letters), rest)
  | '<' :: rest => some (.assertion (.word .start flags.letters), rest)
  | '>' :: rest => some (.assertion (.word .finish flags.letters), rest)
  | c :: rest => if isEscapable c then some (.char c, rest) else none
where
  chars (excluded : Bool) (set : CharSet) (rest : List Char) : Option (Escape × List Char) :=
    (flags.excluding excluded set).map fun set => (.set set, rest)

end DocUpdate.Pattern
