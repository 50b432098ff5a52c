import DocUpdate.Value.Basic
import DocUpdate.Number.Wide

/-!
# The order of values

Values are ordered by type first and by content second. Numbers compare by size whatever
their type, strings and symbols share a place, and documents compare field by field in
field order.
-/

namespace DocUpdate

/-! ## Numbers -/

/-- A number without its width. -/
inductive Number where
  | int (n : Int)
  | double (x : Double)
  | decimal (d : Decimal128)
deriving DecidableEq

namespace Number

def widen : Number → Wide
  | int n => Wide.ofInt n
  | double x => Wide.ofDouble x
  | decimal d => Wide.ofDecimal d

/-- The double nearest to a number that is not a decimal. -/
def toDouble : Number → Double
  | int n => Double.ofInt n
  | double x => x
  | decimal _ => Double.nan false

/-- With a decimal on either side both are widened. Otherwise the comparison is exact. -/
def cmp : Number → Number → Ordering
  | int m, int n => compare m n
  | int m, double y => Double.cmpInt m y
  | double x, int n => (Double.cmpInt n x).swap
  | double x, double y => Double.cmp x y
  | decimal d, y => (Wide.ofDecimal d).cmp y.widen
  | x, decimal e => x.widen.cmp (Wide.ofDecimal e)

end Number

namespace Value

def number? : Value → Option Number
  | int32 n => some (.int n.toInt)
  | int64 n => some (.int n.toInt)
  | double x => some (.double x)
  | decimal d => some (.decimal d)
  | _ => none

/-! ## All values -/

/-- Compares values whose content is not compared further: numbers by size, the rest by type. -/
def cmpPlain (a b : Value) : Ordering :=
  match a.number?, b.number? with
  | some x, some y => x.cmp y
  | _, _ => compare a.rank b.rank

mutual

/-- The order of all values. -/
def cmp : Value → Value → Ordering
  | string s, string t | string s, symbol t | symbol s, string t | symbol s, symbol t => compare s t
  | document xs, document ys => cmpFields xs ys
  | array xs, array ys => cmpItems xs ys
  | binary s xs, binary t ys =>
    ((compare xs.length ys.length).then (compare s t)).then (compare xs ys)
  | objectId x, objectId y => compare x.number.toNat y.number.toNat
  | bool x, bool y => compare x y
  | date x, date y => compare x y
  | timestamp s i, timestamp t j => (compare s t).then (compare i j)
  | regex p o, regex q r => (compare p q).then (compare o r)
  | javascript c, javascript d => compare c d
  | javascriptWithScope c s, javascriptWithScope d t => (compare c d).then (cmpFields s t)
  | a, b => cmpPlain a b

/-- Field by field, name before value. Of two that agree so far the shorter is first. -/
def cmpFields : List (String × Value) → List (String × Value) → Ordering
  | [], [] => .eq
  | [], _ :: _ => .lt
  | _ :: _, [] => .gt
  | (k, v) :: xs, (l, w) :: ys => ((compare k l).then (cmp v w)).then (cmpFields xs ys)

/-- Item by item. Of two that agree so far the shorter is first. -/
def cmpItems : List Value → List Value → Ordering
  | [], [] => .eq
  | [], _ :: _ => .lt
  | _ :: _, [] => .gt
  | v :: xs, w :: ys => (cmp v w).then (cmpItems xs ys)

end

/-- Neither value is before the other. The order of fields counts, the type of a number
does not. -/
def equal (a b : Value) : Bool := a.cmp b == .eq

end Value

end DocUpdate
