import DocUpdate.Text.Digits
import DocUpdate.Text.Hex
import DocUpdate.Text.Json.Basic

/-!
# Reading JSON

The whole text has to be one value with nothing but blanks around it.
-/

namespace DocUpdate.Json

def skipBlanks (cs : List Char) : List Char :=
  cs.dropWhile fun c => c == ' ' || c == '\n' || c == '\t' || c == '\r'

/-! ## Strings -/

/-- A character of a string, or half of a surrogate pair given by an escape. A control
character that is not escaped is `bare`. -/
inductive Piece where
  | char (c : Char)
  | bare (c : Char)
  | half (n : Nat)

namespace Piece

def ofUnit (n : Nat) : Piece := if 0xd800 ≤ n ∧ n < 0xe000 then half n else char (Char.ofNat n)

def char? : Piece → Option Char
  | char c => some c
  | _ => none

def isBare : Piece → Bool
  | bare _ => true
  | _ => false

/-- The bytes of a piece. Half of a pair has three, as other code points of its size have. -/
def bytes : Piece → List UInt8
  | char c | bare c => String.utf8EncodeChar c
  | half n =>
    [UInt8.ofNat (0xe0 + n / 4096), UInt8.ofNat (0x80 + n / 64 % 64), UInt8.ofNat (0x80 + n % 64)]

/-- Joins the halves of pairs. -/
def join : List Piece → List Piece
  | half high :: half low :: rest =>
    if high < 0xdc00 ∧ 0xdc00 ≤ low then
      char (Char.ofNat (0x10000 + (high - 0xd800) * 0x400 + (low - 0xdc00))) :: join rest
    else half high :: join (half low :: rest)
  | piece :: rest => piece :: join rest
  | [] => []

end Piece

/-- What a backslash and one character stand for. -/
def escape? (c : Char) : Option Char :=
  match c with
  | '"' => some '"'
  | '\\' => some '\\'
  | '/' => some '/'
  | 'b' => some '\x08'
  | 'f' => some '\x0c'
  | 'n' => some '\n'
  | 'r' => some '\r'
  | 't' => some '\t'
  | _ => none

/-- The pieces up to the closing quote, and the rest. -/
def pieces : List Char → Option (List Piece × List Char)
  | [] => none
  | '"' :: rest => some ([], rest)
  | '\\' :: 'u' :: a :: b :: c :: d :: rest => do
    let n ← Hex.number? [a, b, c, d]
    let (more, rest) ← pieces rest
    some (.ofUnit n :: more, rest)
  | '\\' :: c :: rest => do
    let c ← escape? c
    let (more, rest) ← pieces rest
    some (.char c :: more, rest)
  | c :: rest =>
    if c = '\\' then none
    else do
      let (more, rest) ← pieces rest
      some ((if c < ' ' then .bare c else .char c) :: more, rest)

/-- A string of pieces: its text, or its bytes if it has none. -/
def ofPieces (ps : List Piece) : Json :=
  match ps.mapM Piece.char? with
  | some cs => string (String.ofList cs)
  | none => bytes (ps.flatMap Piece.bytes) (ps.any Piece.isBare)

/-- A string after its opening quote. -/
def readString (cs : List Char) : Option (Json × List Char) :=
  (pieces cs).map fun (ps, rest) => (ofPieces (Piece.join ps), rest)

/-! ## Numbers -/

def leadingDigits (cs : List Char) : List Char × List Char :=
  (cs.takeWhile Char.isDigit, cs.dropWhile Char.isDigit)

/-- The digits before the point. A zero stands alone. -/
def wholePart (cs : List Char) : List Char × List Char :=
  match cs with
  | '0' :: rest => (['0'], rest)
  | _ => leadingDigits cs

/-- An optional part that needs digits once it has begun. -/
def fractionPart (cs : List Char) : Option (List Char × List Char) :=
  match cs with
  | '.' :: rest =>
    let (ds, rest) := leadingDigits rest
    if ds.isEmpty then none else some ('.' :: ds, rest)
  | _ => some ([], cs)

def exponentPart (cs : List Char) : Option (List Char × List Char) :=
  match cs with
  | 'e' :: rest | 'E' :: rest =>
    let (sign, rest) := match rest with
      | '+' :: rest => (['+'], rest)
      | '-' :: rest => (['-'], rest)
      | _ => ([], rest)
    let (ds, rest) := leadingDigits rest
    if ds.isEmpty then none else some ('e' :: sign ++ ds, rest)
  | _ => some ([], cs)

def readNumber (cs : List Char) : Option (String × List Char) := do
  let (sign, cs) := match cs with
    | '-' :: rest => (['-'], rest)
    | _ => ([], cs)
  let (whole, cs) := wholePart cs
  if whole.isEmpty then none
  else
    let (fraction, cs) ← fractionPart cs
    let (exponent, cs) ← exponentPart cs
    some (String.ofList (sign ++ whole ++ fraction ++ exponent), cs)

/-! ## Values -/

/-- An object with names that are strings. -/
def ofMembers (members : List (Json × Json)) : Json :=
  match members.mapM fun (name, v) => (text? name).map (·, v) with
  | some members => object members
  | none => nameless (members.any fun (name, v) => name.hasBare || v.hasBare)

mutual

/-- Reads a value at the start of a text. Every call below takes at least one character. -/
def readValue : Nat → List Char → Option (Json × List Char)
  | 0, _ => none
  | fuel + 1, cs =>
    match skipBlanks cs with
    | 'n' :: 'u' :: 'l' :: 'l' :: rest => some (null, rest)
    | 't' :: 'r' :: 'u' :: 'e' :: rest => some (bool true, rest)
    | 'f' :: 'a' :: 'l' :: 's' :: 'e' :: rest => some (bool false, rest)
    | '"' :: rest => readString rest
    | '[' :: rest =>
      match skipBlanks rest with
      | ']' :: rest => some (array [], rest)
      | rest => (readItems fuel rest).map fun (items, rest) => (array items, rest)
    | '\x7b' :: rest =>
      match skipBlanks rest with
      | '\x7d' :: rest => some (object [], rest)
      | rest => (readMembers fuel rest).map fun (members, rest) => (ofMembers members, rest)
    | cs => (readNumber cs).map fun (literal, rest) => (number literal, rest)

/-- Reads the items of an array that is not empty, up to its closing bracket. -/
def readItems : Nat → List Char → Option (List Json × List Char)
  | 0, _ => none
  | fuel + 1, cs => do
    let (item, rest) ← readValue fuel cs
    match skipBlanks rest with
    | ',' :: rest => (readItems fuel rest).map fun (items, rest) => (item :: items, rest)
    | ']' :: rest => some ([item], rest)
    | _ => none

/-- Reads the members of an object that is not empty, up to its closing brace. -/
def readMembers : Nat → List Char → Option (List (Json × Json) × List Char)
  | 0, _ => none
  | fuel + 1, cs =>
    match skipBlanks cs with
    | '"' :: rest => do
      let (name, rest) ← readString rest
      match skipBlanks rest with
      | ':' :: rest => do
        let (v, rest) ← readValue fuel rest
        match skipBlanks rest with
        | ',' :: rest =>
          (readMembers fuel rest).map fun (members, rest) => ((name, v) :: members, rest)
        | '\x7d' :: rest => some ([(name, v)], rest)
        | _ => none
      | _ => none
    | _ => none

end

/-- The value that a text denotes. -/
def read? (text : String) : Option Json := do
  let cs := text.toList
  let (v, rest) ← readValue (cs.length + 1) cs
  if (skipBlanks rest).isEmpty then some v else none

end DocUpdate.Json
