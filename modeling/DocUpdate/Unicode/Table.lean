import DocUpdate.Text.Hex
import DocUpdate.Unicode.CharSet

/-!
# Tables of characters

A table is a text of code points and ranges of them in hexadecimal digits, in order and with
blanks or line ends between. A range may have a step: `100-104/2` stands for `100 102 104`.
-/

namespace DocUpdate

/-- Code points a step apart, as ranges of one. -/
def everyNth (first last step : Nat) : List (Nat × Nat) :=
  (List.range ((last - first) / step + 1)).map fun i => (first + i * step, first + i * step)

/-- The value of the digits at the start of a text, and the rest. -/
def leadingHex (n : Nat) : List Char → Nat × List Char
  | [] => (n, [])
  | c :: cs =>
    match Hex.value? c with
    | some d => leadingHex (16 * n + d) cs
    | none => (n, c :: cs)

/-- The ranges of one entry of a table. -/
def entryRanges (entry : List Char) : List (Nat × Nat) :=
  match leadingHex 0 entry with
  | (first, '-' :: rest) =>
    match leadingHex 0 rest with
    | (last, '/' :: rest) => everyNth first last (leadingHex 0 rest).1
    | (last, _) => [(first, last)]
  | (first, _) => [(first, first)]

/-- The entries of a table. -/
def tableEntries (entry : List Char) : List Char → List (List Char)
  | [] => if entry.isEmpty then [] else [entry.reverse]
  | c :: cs =>
    if c = ' ' ∨ c = '\n' then
      if entry.isEmpty then tableEntries [] cs else entry.reverse :: tableEntries [] cs
    else tableEntries (c :: entry) cs

/-- The characters of a table. -/
def CharSet.ofTable (table : String) : CharSet :=
  ofOrdered ((tableEntries [] table.toList).flatMap entryRanges)

end DocUpdate
