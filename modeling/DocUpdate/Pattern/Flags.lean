import DocUpdate.Unicode.Ascii
import DocUpdate.Unicode.Folding
import DocUpdate.Unicode.Space
import DocUpdate.Unicode.Word

/-!
# Flags

Flags change what the parts of a pattern stand for, and what may be written between them.
-/

namespace DocUpdate.Pattern

structure Flags where
  ignoreCase : Bool
  multiLine : Bool
  /-- The point also stands for a line end. -/
  dotAll : Bool
  /-- Blanks and comments between the parts of the pattern are skipped. -/
  verbose : Bool
  crlf : Bool
  unicode : Bool

namespace Flags

def initial : Flags := ⟨false, false, false, false, false, true⟩

/-- Sets a flag by its letter. The letter of lazy repetition is known and changes nothing. -/
def set? (flags : Flags) (letter : Char) (value : Bool) : Option Flags :=
  match letter with
  | 'i' => some { flags with ignoreCase := value }
  | 'm' => some { flags with multiLine := value }
  | 's' => some { flags with dotAll := value }
  | 'x' => some { flags with verbose := value }
  | 'R' => some { flags with crlf := value }
  | 'u' => some { flags with unicode := value }
  | 'U' => some flags
  | _ => none

def fold (flags : Flags) (set : CharSet) : CharSet :=
  if flags.ignoreCase then
    if flags.unicode then set.folded else set.asciiFolded
  else set

/-- Without the Unicode flag a set may hold ASCII characters only. -/
def checked (flags : Flags) (set : CharSet) : Option CharSet :=
  if flags.unicode || set.isAscii then some set else none

/-- The set or, where it is excluded, every other character. -/
def excluding (flags : Flags) (excluded : Bool) (set : CharSet) : Option CharSet :=
  flags.checked (if excluded then set.compl else set)

def letters (flags : Flags) : CharSet := if flags.unicode then Unicode.word else Unicode.Ascii.word

def digits (flags : Flags) : CharSet :=
  if flags.unicode then Unicode.digit else Unicode.Ascii.digit

def spaces (flags : Flags) : CharSet :=
  if flags.unicode then Unicode.space else Unicode.Ascii.space

end Flags

/-! ## Blanks -/

/-- Drops blanks and comments. A comment runs to the end of its line. -/
def dropBlank (inComment : Bool) : List Char → List Char
  | [] => []
  | c :: cs =>
    if inComment then dropBlank (c != '\n') cs
    else if Unicode.isSpace c then dropBlank false cs
    else if c = '#' then dropBlank true cs
    else c :: cs

/-- Drops what the flags allow between the parts of a pattern. -/
def blank (flags : Flags) (cs : List Char) : List Char :=
  if flags.verbose then dropBlank false cs else cs

/-- Reads accepted characters up to a closing brace, after an opening one. -/
def braced (flags : Flags) (accepted : Char → Bool) :
    Nat → List Char → Option (List Char × List Char)
  | 0, _ => none
  | fuel + 1, cs =>
    match blank flags cs with
    | '\x7d' :: rest => some ([], rest)
    | c :: rest =>
      if accepted c then
        (braced flags accepted fuel rest).map fun (text, rest) => (c :: text, rest)
      else none
    | [] => none

end DocUpdate.Pattern
