import DocUpdate.Text.Hex
import DocUpdate.Text.Json.Basic

/-!
# Writing JSON

Every item and every member stands on a line of its own, two blanks further in than what it
belongs to, and members are sorted by name. Empty arrays and objects take two characters.
-/

namespace DocUpdate.Json

/-- Quotes, backslashes and control characters are escaped, and nothing else. -/
def escapeChar (c : Char) : String :=
  match c with
  | '"' => "\\\""
  | '\\' => "\\\\"
  | '\x08' => "\\b"
  | '\x0c' => "\\f"
  | '\n' => "\\n"
  | '\r' => "\\r"
  | '\t' => "\\t"
  | c => if c < ' ' then "\\u" ++ String.ofList (Hex.fixed 4 c.toNat) else c.toString

def quote (text : String) : String :=
  "\"" ++ String.join (text.toList.map escapeChar) ++ "\""

/-- A line break and the blanks of a level. -/
def lineBreak (level : Nat) : String := "\n" ++ String.ofList (List.replicate (2 * level) ' ')

/-- Parts on lines of their own between two brackets. -/
def block (opening closing : String) (level : Nat) (parts : List String) : String :=
  if parts.isEmpty then opening ++ closing
  else
    opening ++ lineBreak (level + 1) ++ String.intercalate ("," ++ lineBreak (level + 1)) parts
      ++ lineBreak level ++ closing

mutual

def pretty (level : Nat) : Json → String
  | null => "null"
  | bool b => if b then "true" else "false"
  | number literal => literal
  | string text => quote text
  | bytes _ _ | nameless _ => quote ""
  | array items => block "[" "]" level (prettyItems (level + 1) items)
  | object members =>
    let sorted := (prettyMembers (level + 1) members).mergeSort fun a b => a.1 ≤ b.1
    block "\x7b" "\x7d" level (sorted.map fun (name, text) => quote name ++ ": " ++ text)

def prettyItems (level : Nat) : List Json → List String
  | [] => []
  | item :: rest => pretty level item :: prettyItems level rest

def prettyMembers (level : Nat) : List (String × Json) → List (String × String)
  | [] => []
  | (name, v) :: rest => (name, pretty level v) :: prettyMembers level rest

end

end DocUpdate.Json
