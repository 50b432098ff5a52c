import DocUpdate.Number.Width
import DocUpdate.Value.Order

/-!
# Arithmetic on values

Two integers give an integer of the wider type while the exact result fits, and a double
beyond 64 bits. A double on either side gives a double, a decimal gives a decimal.
-/

namespace DocUpdate

/-- The operations of arithmetic on stored numbers. -/
inductive Arith where
  | add
  | mul
deriving DecidableEq

namespace Arith

def onInt : Arith → Int → Int → Int
  | add, a, b => a + b
  | mul, a, b => a * b

def onDouble : Arith → Double → Double → Double
  | add, a, b => a.add b
  | mul, a, b => a.mul b

def onWide : Arith → Wide → Wide → Wide
  | add, a, b => a.add b
  | mul, a, b => a.mul b

end Arith

namespace Value

/-- A 64-bit integer, or the double result where that overflows. -/
def longOrDouble (op : Arith) (a b : Int) : Value :=
  match int64Of? (op.onInt a b) with
  | some n => int64 n
  | none => double (op.onDouble (Double.ofInt a) (Double.ofInt b))

/-- A 32-bit integer, or a wider number where that overflows. -/
def intOrWider (op : Arith) (a b : Int) : Value :=
  match int32Of? (op.onInt a b) with
  | some n => int32 n
  | none => longOrDouble op a b

/-- An operation on two numbers that are not both 32-bit integers. -/
def combine (op : Arith) (a b : Number) : Value :=
  match a, b with
  | .int x, .int y => longOrDouble op x y
  | .decimal _, _ | _, .decimal _ => decimal (op.onWide a.widen b.widen).store
  | _, _ => double (op.onDouble a.toDouble b.toDouble)

/-- The result of an operation on two numbers, or nothing if either is not a number. -/
def arithmetic (op : Arith) (current operand : Value) : Option Value :=
  match current, operand with
  | int32 x, int32 y => some (intOrWider op x.toInt y.toInt)
  | _, _ =>
    match current.number?, operand.number? with
    | some a, some b => some (combine op a b)
    | _, _ => none

/-- Zero of the type of a number. -/
def zeroLike : Value → Option Value
  | int32 _ => some (.int32 0)
  | int64 _ => some (.int64 0)
  | double _ => some (.double (Double.zero false))
  | decimal _ => some (.decimal Decimal128.zero)
  | _ => none

/-- Doubles are read as integers below this size only. -/
def doubleIntegerLimit : Nat := pow2 53

/-- The 64-bit integer that a number is, whatever its type. -/
def asInteger : Value → Option Int
  | int32 n => some n.toInt
  | int64 n => some n.toInt
  | double x => x.toInt?.filter (·.natAbs < doubleIntegerLimit)
  | decimal d => ((Wide.ofDecimal d).toInt?.bind int64Of?).map (·.toInt)
  | _ => none

end Value

end DocUpdate
