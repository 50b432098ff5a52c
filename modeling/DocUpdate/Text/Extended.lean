import DocUpdate.Number.DecimalBytes
import DocUpdate.Number.DecimalText
import DocUpdate.Number.Shortest
import DocUpdate.Number.Width
import DocUpdate.Text.Base64
import DocUpdate.Text.Calendar
import DocUpdate.Text.Json.Number
import DocUpdate.Text.Json.Basic
import DocUpdate.Value.Display

/-!
# Values as JSON

Values that JSON has no form for are objects with one name that starts with a dollar sign.
Writing uses plain numbers and readable dates where it can. Reading takes such an object
for the typed value as soon as one of the special names comes up, drops what stood before
it, and allows nothing after it.
-/

namespace DocUpdate.Extended

open Json (text?)

/-! ## Writing -/

private def tagged (name : String) (v : Json) : Json := .object [(name, v)]

def ofDouble (x : Double) : Json :=
  if x.isFinite then .number (Layout.json.text x)
  else
    tagged "$numberDouble" (.string
      ((if x.negative then "-" else "") ++ if x.isNaN then "NaN" else "Infinity"))

/-- Dates before 1970 are written as milliseconds. Those after the year 9999 are written as its
last moment. -/
def ofDate (millis : Int) : Json :=
  tagged "$date" (if millis < 0 then tagged "$numberLong" (.string (toString millis))
    else .string ((Moment.ofMillis? millis).getD .last).rfc3339)

private def ofObjectId (id : ObjectId) : Json := tagged "$oid" (.string id.hex)

mutual

def ofValue : Value → Json
  | .minKey => tagged "$minKey" (.number "1")
  | .maxKey => tagged "$maxKey" (.number "1")
  | .null => .null
  | .undefined => tagged "$undefined" (.bool true)
  | .bool b => .bool b
  | .int32 n => .number (toString n.toInt)
  | .int64 n => .number (toString n.toInt)
  | .double x => ofDouble x
  | .decimal d => tagged "$numberDecimal" (.string d.text)
  | .string text => .string text
  | .symbol text => tagged "$symbol" (.string text)
  | .document fields => .object (ofFields fields)
  | .array items => .array (ofItems items)
  | .binary subtype bytes =>
    tagged "$binary" (.object
      [("base64", .string (String.ofList (Base64.encode bytes))),
        ("subType", .string (String.ofList (Hex.fixed 2 subtype.toNat)))])
  | .objectId id => ofObjectId id
  | .date millis => ofDate millis.toInt
  | .timestamp seconds increment =>
    tagged "$timestamp" (.object
      [("t", .number (toString seconds)), ("i", .number (toString increment))])
  | .regex pattern options =>
    tagged "$regularExpression" (.object
      [("pattern", .string pattern), ("options", .string options)])
  | .dbPointer collection id =>
    tagged "$dbPointer" (.object [("$ref", .string collection), ("$id", ofObjectId id)])
  | .javascript code => tagged "$code" (.string code)
  | .javascriptWithScope code scope =>
    .object [("$code", .string code), ("$scope", .object (ofFields scope))]

def ofFields : List (String × Value) → List (String × Json)
  | [] => []
  | (k, v) :: rest => (k, ofValue v) :: ofFields rest

def ofItems : List Value → List Json
  | [] => []
  | v :: rest => ofValue v :: ofItems rest

end

/-! ## Reading numbers -/

/-- A literal without a point and an exponent. A negative zero is not one. -/
def integerLiteral? (literal : String) : Option Int :=
  if literal = "-0" then none else signedInteger? literal.toList

/-- An integer that is not negative takes the narrowest type, a negative one has 64 bits. -/
def integer? (n : Int) : Option Value :=
  let long := (int64Of? n).map .int64
  if n < 0 then long else ((int32Of? n).map .int32).or long

/-- A plain number. Integers beyond 64 bits are doubles, but not those that would fit
without a sign. -/
def number? (literal : String) : Option Value :=
  match integerLiteral? literal with
  | none => (Json.double? literal).map .double
  | some n =>
    (integer? n).or
      (if 0 ≤ n ∧ n < pow2 64 then none else (Json.double? literal).map .double)

/-- The double nearest to a decimal text, where the special values have names of either case
and what is too large is infinite. -/
def double? (text : String) : Option Double :=
  let (negative, cs) := splitSign text.toList
  match String.ofList (cs.map Char.toLower) with
  | "nan" => some (Double.nan negative)
  | "inf" | "infinity" => some (Double.infinity negative)
  | _ => (DecimalLiteral.read? cs).map fun parts =>
    Double.ofDecimal negative parts.digits (parts.exponent - parts.places)

def integerText? (text : String) : Option Int := signedInteger? text.toList

/-! ## Reading the parts of typed values -/

/-- An integer from zero up to and including `high`. -/
def wholeNumber? (high : Nat) : Json → Option Nat
  | .number literal => do
    let n ← integerLiteral? literal
    if 0 ≤ n ∧ n ≤ high then some n.toNat else none
  | _ => none

/-- Bytes as a list of numbers, or as those of a string. -/
def bytes? : Json → Option (List UInt8)
  | .array items => items.mapM fun item => (wholeNumber? 255 item).map UInt8.ofNat
  | .string text => some text.toUTF8.toList
  | .bytes bytes _ => some bytes
  | _ => none

/-- The members of a record with the given names: by name in any order, or by position. -/
def record? (names : List String) : Json → Option (List Json)
  | .object members =>
    if members.length = names.length then names.mapM fun name => members.lookup name else none
  | .array items => if items.length = names.length then some items else none
  | _ => none

def objectId? (v : Json) : Option ObjectId := (text? v).bind ObjectId.ofHex?

def binary? (v : Json) : Option Value := do
  match ← record? ["base64", "subType"] v with
  | [data, subtype] => do
    let bytes ← Base64.decode? (← text? data).toList
    match ← Hex.bytes? (← text? subtype).toList with
    | [n] => some (.binary n bytes)
    | _ => none
  | _ => none

/-- The digits of an identifier of 16 bytes: plain, or with hyphens after 8, 12, 16 and 20 of
them, which may stand in braces or behind a scheme. -/
def uuidDigits? (text : String) : Option (List Char) :=
  let cs := text.toList
  let hyphenated (cs : List Char) : Option (List Char) :=
    if cs.length = 36 ∧ [8, 13, 18, 23].all (fun i => cs[i]? == some '-') then
      some (cs.take 8 ++ (cs.drop 9).take 4 ++ (cs.drop 14).take 4 ++ (cs.drop 19).take 4
        ++ cs.drop 24)
    else none
  if cs.length = 32 then some cs
  else if cs.length = 38 ∧ cs.head? = some '\x7b' ∧ cs.getLast? = some '\x7d' then
    hyphenated (cs.drop 1).dropLast
  else if (cs.take 9).map Char.toLower = "urn:uuid:".toList then hyphenated (cs.drop 9)
  else hyphenated cs

def uuid? (v : Json) : Option Value := do
  let digits ← uuidDigits? (← text? v)
  let bytes ← Hex.bytes? digits
  some (.binary 4 bytes)

def timestamp? (v : Json) : Option Value := do
  match ← record? ["t", "i"] v with
  | [t, i] => do
    let t ← wholeNumber? (pow2 32 - 1) t
    let i ← wholeNumber? (pow2 32 - 1) i
    some (.timestamp (UInt32.ofNat t) (UInt32.ofNat i))
  | _ => none

/-- The letters of the options are sorted. Neither text may hold a null character. -/
def regex? (v : Json) : Option Value := do
  match ← record? ["pattern", "options"] v with
  | [pattern, options] => do
    let pattern ← text? pattern
    let options ← text? options
    if pattern.contains '\x00' || options.contains '\x00' then none
    else some (.regex pattern (String.ofList (options.toList.mergeSort fun a b => a ≤ b)))
  | _ => none

def dbPointer? (v : Json) : Option Value := do
  match ← record? ["$ref", "$id"] v with
  | [collection, id] => do
    let collection ← text? collection
    match ← record? ["$oid"] id with
    | [id] => do
      let id ← objectId? id
      some (.dbPointer collection id)
    | _ => none
  | _ => none

/-- A date: a readable text, milliseconds, or milliseconds as text. -/
def dateMillis? (v : Json) : Option Int :=
  match v with
  | .string text => Moment.millisOf? text
  | .number literal => integerLiteral? literal
  | _ => do
    match ← record? ["$numberLong"] v with
    | [millis] => (text? millis).bind integerText?
    | _ => none

def one? (v : Json) : Option Unit :=
  (wholeNumber? 255 v).bind fun n => if n = 1 then some () else none

/-- The typed value of a special name, apart from code. Nothing if the name is not special. -/
def typed? (name : String) (v : Json) : Option (Option Value) :=
  match name with
  | "$oid" => some ((objectId? v).map .objectId)
  | "$symbol" => some ((text? v).map .symbol)
  | "$numberInt" =>
    some ((((text? v).bind integerText?).bind int32Of?).map .int32)
  | "$numberLong" =>
    some ((((text? v).bind integerText?).bind int64Of?).map .int64)
  | "$numberDouble" => some (((text? v).bind double?).map .double)
  | "$numberDecimal" => some (((text? v).bind Decimal128.parse?).map .decimal)
  | "$numberDecimalBytes" => some (((bytes? v).bind Decimal128.ofBytes?).map .decimal)
  | "$binary" => some (binary? v)
  | "$uuid" => some (uuid? v)
  | "$timestamp" => some (timestamp? v)
  | "$regularExpression" => some (regex? v)
  | "$dbPointer" => some (dbPointer? v)
  | "$date" => some (((dateMillis? v).bind int64Of?).map .date)
  | "$minKey" => some ((one? v).map fun _ => .minKey)
  | "$maxKey" => some ((one? v).map fun _ => .maxKey)
  | "$undefined" =>
    some (match v with
      | .bool true => some .undefined
      | _ => none)
  | _ => none

/-! ## Reading values -/

mutual

def value? : Json → Option Value
  | .null => some .null
  | .bool b => some (.bool b)
  | .number literal => number? literal
  | .string text => some (.string text)
  | .bytes _ _ | .nameless _ => none
  | .array items => (items? items).map .array
  | .object members => members? [] members

def items? : List Json → Option (List Value)
  | [] => some []
  | v :: rest => do
    let v ← value? v
    let rest ← items? rest
    some (v :: rest)

/-- Reads the members of an object after the fields that have been read. -/
def members? (fields : Fields) : List (String × Json) → Option Value
  | [] => some (.document fields)
  | (name, v) :: rest =>
    if name = "$code" then do
      let code ← text? v
      match rest with
      | [] => some (.javascript code)
      | [("$scope", .object scope)] => do
        match ← members? [] scope with
        | .document scope => some (.javascriptWithScope code scope)
        | _ => none
      | _ => none
    else if name = "$scope" then
      match v, rest with
      | .object scope, [("$code", code)] => do
        let code ← text? code
        match ← members? [] scope with
        | .document scope => some (.javascriptWithScope code scope)
        | _ => none
      | _, _ => none
    else
      match typed? name v with
      | some result => if rest.isEmpty then result else none
      | none => do
        let v ← value? v
        members? (Fields.insert fields name v) rest

end

/-- A document. Typed values are none. -/
def document? (v : Json) : Option Fields := do
  match v with
  | .object members =>
    match ← members? [] members with
    | .document fields => some fields
    | _ => none
  | _ => none

end DocUpdate.Extended
