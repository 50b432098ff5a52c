import DocUpdate.Number.Double
import DocUpdate.Number.Decimal128

/-!
# Values and documents

A document is a list of named values in field order. Nothing in the type forbids a
repeated name. Every operation below acts on the first field of a name, except `erase`,
which leaves none.
-/

namespace DocUpdate

/-- A 12-byte identifier, read as a number with the first byte on top. -/
structure ObjectId where
  number : BitVec 96
deriving DecidableEq

/-- A value of a stored document. -/
inductive Value where
  | minKey
  | maxKey
  | null
  | undefined
  | bool (b : Bool)
  | int32 (n : Int32)
  | int64 (n : Int64)
  | double (x : Double)
  | decimal (d : Decimal128)
  | string (text : String)
  | symbol (text : String)
  | document (fields : List (String × Value))
  | array (items : List Value)
  | binary (subtype : UInt8) (bytes : List UInt8)
  | objectId (id : ObjectId)
  /-- Milliseconds since the epoch. -/
  | date (millis : Int64)
  | timestamp (seconds increment : UInt32)
  | regex (pattern options : String)
  | dbPointer (collection : String) (id : ObjectId)
  | javascript (code : String)
  | javascriptWithScope (code : String) (scope : List (String × Value))

/-- The fields of a document, in order. -/
abbrev Fields := List (String × Value)

/-! ## Types of values -/

/-- The type of a value, named in messages. -/
inductive Kind where
  | minKey | maxKey | null | undefined | bool | int | long | double | decimal | string | symbol
  | object | array | binData | objectId | date | timestamp | regex | dbPointer | javascript
  | javascriptWithScope
deriving DecidableEq

/-- The name of a type as messages give it. -/
def Kind.name : Kind → String
  | minKey => "minKey"
  | maxKey => "maxKey"
  | null => "null"
  | undefined => "undefined"
  | bool => "bool"
  | int => "int"
  | long => "long"
  | double => "double"
  | decimal => "decimal"
  | string => "string"
  | symbol => "symbol"
  | object => "object"
  | array => "array"
  | binData => "binData"
  | objectId => "objectId"
  | date => "date"
  | timestamp => "timestamp"
  | regex => "regex"
  | dbPointer => "dbPointer"
  | javascript => "javascript"
  | javascriptWithScope => "javascriptWithScope"

/-- The place of a type in the order of all values. Types that share a place are compared
by content. -/
def Kind.rank : Kind → Nat
  | minKey => 0
  | null | undefined => 1
  | int | long | double | decimal => 2
  | string | symbol => 3
  | object => 4
  | array => 5
  | binData => 6
  | objectId => 7
  | bool => 8
  | date => 9
  | timestamp => 10
  | regex => 11
  | dbPointer => 12
  | javascript => 13
  | javascriptWithScope => 14
  | maxKey => 15

namespace Value

def kind : Value → Kind
  | minKey => .minKey
  | maxKey => .maxKey
  | null => .null
  | undefined => .undefined
  | bool _ => .bool
  | int32 _ => .int
  | int64 _ => .long
  | double _ => .double
  | decimal _ => .decimal
  | string _ => .string
  | symbol _ => .symbol
  | document _ => .object
  | array _ => .array
  | binary _ _ => .binData
  | objectId _ => .objectId
  | date _ => .date
  | timestamp _ _ => .timestamp
  | regex _ _ => .regex
  | dbPointer _ _ => .dbPointer
  | javascript _ => .javascript
  | javascriptWithScope _ _ => .javascriptWithScope

def rank (v : Value) : Nat := v.kind.rank

def isNumeric : Value → Bool
  | int32 _ | int64 _ | double _ | decimal _ => true
  | _ => false

def isNull : Value → Bool
  | null => true
  | _ => false

end Value

/-! ## Fields -/

namespace Fields

def get? : Fields → String → Option Value
  | [], _ => none
  | (k, v) :: rest, key => if k = key then some v else get? rest key

/-- Replaces the value of a field where it stands, or appends a new field. -/
def insert : Fields → String → Value → Fields
  | [], key, value => [(key, value)]
  | (k, v) :: rest, key, value =>
    if k = key then (k, value) :: rest else (k, v) :: insert rest key value

/-- Removes a field. The others keep their order. -/
def erase : Fields → String → Fields
  | [], _ => []
  | (k, v) :: rest, key => if k = key then erase rest key else (k, v) :: erase rest key

def keys (fields : Fields) : List String := fields.map (·.1)

def contains (fields : Fields) (key : String) : Bool := (get? fields key).isSome

@[simp] theorem get?_nil (key : String) : get? [] key = none := rfl

theorem get?_cons (k : String) (v : Value) (rest : Fields) (key : String) :
    get? ((k, v) :: rest) key = if k = key then some v else get? rest key := rfl

@[simp] theorem get?_insert_self (fields : Fields) (key : String) (value : Value) :
    (fields.insert key value).get? key = some value := by
  induction fields with
  | nil => simp [insert, get?]
  | cons field rest ih =>
    obtain ⟨k, v⟩ := field
    by_cases h : k = key <;> simp [insert, get?, h, ih]

theorem get?_insert_of_ne {key other : String} (h : key ≠ other) (fields : Fields)
    (value : Value) : (fields.insert key value).get? other = fields.get? other := by
  induction fields with
  | nil => simp [insert, get?, h]
  | cons field rest ih =>
    obtain ⟨k, v⟩ := field
    by_cases hk : k = key
    · subst hk; simp [insert, get?, h]
    · simp [insert, get?, hk, ih]

@[simp] theorem get?_erase_self (fields : Fields) (key : String) :
    (fields.erase key).get? key = none := by
  induction fields with
  | nil => rfl
  | cons field rest ih =>
    obtain ⟨k, v⟩ := field
    by_cases hk : k = key <;> simp [erase, get?, hk, ih]

theorem get?_erase_of_ne {key other : String} (h : key ≠ other) (fields : Fields) :
    (fields.erase key).get? other = fields.get? other := by
  induction fields with
  | nil => rfl
  | cons field rest ih =>
    obtain ⟨k, v⟩ := field
    by_cases hk : k = key
    · subst hk; simp [erase, get?, h, ih]
    · simp [erase, get?, hk, ih]

theorem get?_eq_none_iff (fields : Fields) (key : String) :
    fields.get? key = none ↔ key ∉ fields.keys := by
  induction fields with
  | nil => simp [keys]
  | cons field rest ih =>
    obtain ⟨k, v⟩ := field
    by_cases hk : k = key
    · simp [get?, keys, hk]
    · have hk' : ¬ key = k := fun h => hk h.symm
      simp only [keys] at ih
      simp [get?, keys, hk, hk', ih]

end Fields

end DocUpdate
