import DocUpdate.Pattern.Reader
import DocUpdate.Value.Basic

/-!
# Patterns

A pattern is an expression with the text it was read from. Options are letters in front of
that text, and only four of them are known.
-/

namespace DocUpdate

/-- A regular expression that has been read. -/
structure Pattern where
  text : String
  regex : Regex

/-- Why a pattern is refused. -/
inductive PatternFault where
  | unknownOption (letter : Char)
  | invalid
deriving DecidableEq

namespace Pattern

def isOption (c : Char) : Bool := c == 'i' || c == 's' || c == 'm' || c == 'x'

/-- The text of a pattern with its options in front. -/
def withOptions (pattern options : String) : String :=
  if options = "" then pattern else "(?" ++ options ++ ")" ++ pattern

/-- Reads a pattern with its options. -/
def compile (pattern options : String) : Except PatternFault Pattern :=
  match options.toList.find? (!isOption ·) with
  | some letter => .error (.unknownOption letter)
  | none =>
    let text := withOptions pattern options
    match read? text with
    | some regex => .ok ⟨text, regex⟩
    | none => .error .invalid

/-- Strings and symbols can match, and nothing else. -/
def isMatch (p : Pattern) : Value → Bool
  | .string text | .symbol text => p.regex.isMatch text
  | _ => false

end Pattern

end DocUpdate
