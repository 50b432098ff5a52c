import DocUpdate.Value.Basic
import DocUpdate.Number.Shortest
import DocUpdate.Number.DecimalText
import DocUpdate.Text.Base64
import DocUpdate.Text.Calendar
import DocUpdate.Text.Hex

/-!
# Values in messages

How a value is shown to a reader. Strings stand in quotes as they are, so the text cannot
be read back.
-/

namespace DocUpdate

/-- The 24 digits of an identifier. -/
def ObjectId.hex (id : ObjectId) : String := String.ofList (Hex.fixed 24 id.number.toNat)

/-- The identifier of 24 digits. -/
def ObjectId.ofHex? (text : String) : Option ObjectId :=
  let cs := text.toList
  if cs.length = 24 then (Hex.number? cs).map fun n => ⟨BitVec.ofNat 96 n⟩ else none

/-- A double in full, without an exponent. -/
def Double.display (x : Double) : String :=
  if x.isNaN then "NaN"
  else if x.isInfinite then if x.negative then "-inf" else "inf"
  else Layout.plain.text x

namespace Value

private def quoted (text : String) : String := "\"" ++ text ++ "\""

private def subtypeText (n : UInt8) : String :=
  if n < 16 then String.singleton (Hex.digit n.toNat) else String.ofList (Hex.fixed 2 n.toNat)

mutual

def display : Value → String
  | minKey => "MinKey"
  | maxKey => "MaxKey"
  | null => "null"
  | undefined => "undefined"
  | bool b => if b then "true" else "false"
  | int32 n => toString n.toInt
  | int64 n => toString n.toInt
  | double x => x.display
  | decimal d => d.text
  | string text => quoted text
  | symbol text => "Symbol(" ++ quoted text ++ ")"
  | document [] => "\x7b\x7d"
  | document (field :: rest) => "\x7b " ++ displayField field ++ displayFields rest ++ " \x7d"
  | array [] => "[]"
  | array (item :: rest) => "[" ++ display item ++ displayItems rest ++ "]"
  | binary subtype bytes =>
    "Binary(0x" ++ subtypeText subtype ++ ", " ++ String.ofList (Base64.encode bytes) ++ ")"
  | objectId id => "ObjectId(" ++ quoted id.hex ++ ")"
  | date millis => "DateTime(" ++ quoted (Moment.displayMillis millis.toInt) ++ ")"
  | timestamp seconds increment =>
    "Timestamp(" ++ toString seconds ++ ", " ++ toString increment ++ ")"
  | regex pattern options => "/" ++ pattern ++ "/" ++ options
  | dbPointer collection id => "DbPointer(" ++ collection ++ ", " ++ id.hex ++ ")"
  | javascript code => code
  | javascriptWithScope code _ => code

def displayField : String × Value → String
  | (k, v) => quoted k ++ ": " ++ display v

/-- The fields after the first. -/
def displayFields : List (String × Value) → String
  | [] => ""
  | field :: rest => ", " ++ displayField field ++ displayFields rest

/-- The items after the first. -/
def displayItems : List Value → String
  | [] => ""
  | item :: rest => ", " ++ display item ++ displayItems rest

end

end Value

end DocUpdate
