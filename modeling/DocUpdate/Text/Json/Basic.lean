/-!
# JSON values

A value as it is written: numbers are kept as their literals, and objects keep the order and
the repetition of their names.
-/

namespace DocUpdate

inductive Json where
  | null
  | bool (b : Bool)
  | number (literal : String)
  | string (text : String)
  /-- A string that has no text, for it holds half of a surrogate pair or, if it is `bare`, a
  control character that is not escaped. -/
  | bytes (bytes : List UInt8) (bare : Bool)
  /-- An object with a name that has no text. It is `bare` if a string in it is. -/
  | nameless (bare : Bool)
  | array (items : List Json)
  | object (members : List (String × Json))

namespace Json

/-- The text of a string that has one. -/
def text? : Json → Option String
  | string text => some text
  | _ => none

mutual

/-- How many arrays and objects stand around the innermost value, itself included. -/
def depth : Json → Nat
  | null | bool _ | number _ | string _ | bytes _ _ | nameless _ => 0
  | array items => depthItems items + 1
  | object members => depthMembers members + 1

def depthItems : List Json → Nat
  | [] => 0
  | item :: rest => max (depth item) (depthItems rest)

def depthMembers : List (String × Json) → Nat
  | [] => 0
  | (_, v) :: rest => max (depth v) (depthMembers rest)

end

mutual

/-- A control character that is not escaped stands in one of the strings. -/
def hasBare : Json → Bool
  | null | bool _ | number _ | string _ => false
  | bytes _ bare | nameless bare => bare
  | array items => anyBare items
  | object members => anyBareMember members

def anyBare : List Json → Bool
  | [] => false
  | item :: rest => hasBare item || anyBare rest

def anyBareMember : List (String × Json) → Bool
  | [] => false
  | (_, v) :: rest => hasBare v || anyBareMember rest

end

end Json

end DocUpdate
