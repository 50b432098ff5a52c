import DocUpdate.Unicode.CharSet

/-!
# Classes of ASCII characters

The classes that have a name of their own, and what words, numbers and blanks are made of where
nothing but ASCII counts.
-/

namespace DocUpdate.Unicode.Ascii

def digit : CharSet := .range '0' '9'

def lower : CharSet := .range 'a' 'z'

def upper : CharSet := .range 'A' 'Z'

def alpha : CharSet := .unions [lower, upper]

def alnum : CharSet := .unions [alpha, digit]

def word : CharSet := .unions [alnum, .single '_']

def space : CharSet := .unions [.range '\t' '\r', .single ' ']

/-- The class of a name. -/
def class? (name : String) : Option CharSet :=
  match name with
  | "alnum" => some alnum
  | "alpha" => some alpha
  | "ascii" => some (.range '\x00' '\x7f')
  | "blank" => some (.unions [.single '\t', .single ' '])
  | "cntrl" => some (.unions [.range '\x00' '\x1f', .single '\x7f'])
  | "digit" => some digit
  | "graph" => some (.range '!' '~')
  | "lower" => some lower
  | "print" => some (.range ' ' '~')
  | "punct" =>
    some (.unions [.range '!' '/', .range ':' '@', .range '[' '\x60', .range '\x7b' '~'])
  | "space" => some space
  | "upper" => some upper
  | "word" => some word
  | "xdigit" => some (.unions [digit, .range 'A' 'F', .range 'a' 'f'])
  | _ => none

end DocUpdate.Unicode.Ascii
