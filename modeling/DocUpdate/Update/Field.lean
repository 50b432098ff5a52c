import DocUpdate.Update.Edit
import DocUpdate.Value.Arithmetic
import DocUpdate.Value.Same

/-!
# Edits of a single value

Each edit tells whether the document changed. Writing what is stored already is no change
and leaves the old value in place.
-/

namespace DocUpdate.Edit

def setValue (path : Path) (value : Value) : Edit Bool := do
  match ← readForWrite path with
  | some current => if current.same value then return false else write path value
  | none => write path value

def setOnInsert (path : Path) (value : Value) (options : Options) : Edit Bool :=
  if options.isInsert then setValue path value else return false

/-- The seconds of a timestamp are clamped to 32 bits. -/
def timestampOf (millis : Int) : Value :=
  let seconds := Int.fdiv millis 1000
  .timestamp (UInt32.ofNat (min seconds.toNat (pow2 32 - 1))) 1

def dateValue (kind : DateKind) (options : Options) : Value :=
  match kind with
  | .date => .date options.now
  | .timestamp => timestampOf options.now.toInt

def currentDate (path : Path) (kind : DateKind) (options : Options) : Edit Bool :=
  setValue path (dateValue kind options)

/-- A missing value becomes the amount. -/
def inc (path : Path) (amount : Value) : Edit Bool := do
  match ← readForWrite path with
  | none => setValue path amount
  | some current =>
    match Value.arithmetic .add current amount with
    | some sum => setValue path sum
    | none => mismatch .inc path (.notNumeric current.kind)

/-- A missing value becomes zero of the type of the factor. -/
def mul (path : Path) (factor : Value) : Edit Bool := do
  match ← readForWrite path with
  | none =>
    match factor.zeroLike with
    | some zero => setValue path zero
    | none => fail (.operand .mul path.text .multiplier)
  | some current =>
    match Value.arithmetic .mul current factor with
    | some product => setValue path product
    | none => mismatch .mul path (.notNumeric current.kind)

/-- Writes the operand if it compares with the current value as asked. Arrays and documents
are not compared. -/
def bound (op : Operator) (wanted : Ordering) (path : Path) (operand : Value) : Edit Bool := do
  match ← readForWrite path with
  | none => write path operand
  | some (.array items) => mismatch op path (.notComparable (Value.array items).kind)
  | some (.document fields) => mismatch op path (.notComparable (Value.document fields).kind)
  | some current => if operand.cmp current == wanted then write path operand else return false

/-- The value leaves its place and comes last under its new name. -/
def rename (source target : Path) : Edit Bool := do
  match ← read source with
  | none => return false
  | some value =>
    let _ ← remove source
    let _ ← remove target
    write target value

/-! ## Bits -/

def bit32 : BitOp → Int32 → Int32 → Int32
  | .and, a, b => a &&& b
  | .or, a, b => a ||| b
  | .xor, a, b => a ^^^ b

def bit64 : BitOp → Int64 → Int64 → Int64
  | .and, a, b => a &&& b
  | .or, a, b => a ||| b
  | .xor, a, b => a ^^^ b

/-- One bitwise step. Unless both sides have 32 bits the result has 64. -/
def bitStep? (acc : Value) (step : BitOp × Value) : Option Value :=
  match acc, step.2 with
  | .int32 a, .int32 b => some (.int32 (bit32 step.1 a b))
  | a, b => do
    let x ← a.asInteger
    let y ← b.asInteger
    some (.int64 (bit64 step.1 (Int64.ofInt x) (Int64.ofInt y)))

/-- A missing value starts from zero of the type of the first operand. -/
def bitStart (steps : List (BitOp × Value)) : Value :=
  match steps.head? with
  | some (_, .int64 _) => .int64 0
  | _ => .int32 0

def bitFrom (path : Path) (steps : List (BitOp × Value)) (start : Value) : Edit Bool :=
  match steps.foldlM bitStep? start with
  | some result => setValue path result
  | none => fail (.operand .bit path.text .bitStep)

def bit (path : Path) (steps : List (BitOp × Value)) : Edit Bool := do
  match ← readForWrite path with
  | none => bitFrom path steps (bitStart steps)
  | some (.int32 n) => bitFrom path steps (.int32 n)
  | some (.int64 n) => bitFrom path steps (.int64 n)
  | some current => mismatch .bit path (.notIntegral current.kind)

end DocUpdate.Edit
