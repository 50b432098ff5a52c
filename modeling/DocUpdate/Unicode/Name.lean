import DocUpdate.Unicode.Age
import DocUpdate.Unicode.Segment
import DocUpdate.Unicode.Word

/-!
# Classes by name

A class of characters has a name, or is given by a property and the value that it has. Names
are spelled loosely: case, blanks, hyphens, underscores and a leading `is` do not count.
-/

namespace DocUpdate.Unicode

/-! ## Loose names -/

/-- What counts of a name. The `is` of `isc` is a part of it. -/
def looseName (name : String) : String :=
  let cs := name.toList
  let (hasIs, cs) := match cs with
    | i :: s :: rest => if i.toLower = 'i' ∧ s.toLower = 's' then (true, rest) else (false, cs)
    | _ => (false, cs)
  let kept := cs.filter fun c => c.toNat < 128 && c != ' ' && c != '_' && c != '-'
  let kept := kept.map Char.toLower
  String.ofList (if hasIs && kept == ['c'] then ['i', 's', 'c'] else kept)

/-- Whether a name is one of the spellings. -/
def isSpelling (names : List String) (name : String) : Bool :=
  names.any fun spelling => looseName spelling == looseName name

/-- The entry of a name in a table. -/
def rowOf? {α : Type} (table : List (List String × α)) (name : String) :
    Option (List String × α) :=
  table.find? fun entry => isSpelling entry.1 name

/-- The characters of a name in a table. -/
def lookup? (table : List (List String × CharSet)) (name : String) : Option CharSet :=
  (rowOf? table name).map (·.2)

/-! ## Classes -/

def categoryClass? (name : String) : Option CharSet :=
  match looseName name with
  | "any" => some .all
  | "ascii" => some (.range '\x00' '\x7f')
  | "assigned" => some Category.assigned
  | _ => (rowOf? Category.names name).map fun entry => Category.charsOf entry.2

def scriptClass? (name : String) : Option CharSet := (rowOf? Script.table name).map Script.chars

/-- The class of a name: a property, a category or a script. -/
def class? (name : String) : Option CharSet :=
  (lookup? Property.names name).or ((categoryClass? name).or (scriptClass? name))

/-- The class of the characters whose property has a value. -/
def valueClass? (property value : String) : Option CharSet :=
  match looseName property with
  | "gc" | "generalcategory" => categoryClass? value
  | "sc" | "script" => scriptClass? value
  | "scx" | "scriptextensions" => (rowOf? Script.table value).map Script.extendedChars
  | "age" => Age.upTo? fun version => isSpelling (Age.names version) value
  | "gcb" | "graphemeclusterbreak" => lookup? Grapheme.values value
  | "wb" | "wordbreak" => lookup? WordPart.values value
  | "sb" | "sentencebreak" => lookup? SentencePart.values value
  | _ => none

end DocUpdate.Unicode
