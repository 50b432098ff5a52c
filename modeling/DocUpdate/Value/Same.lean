import DocUpdate.Value.Basic

/-!
# Values that are stored alike

`same` decides whether writing a value would change anything. The types must agree, the
digits of a decimal count, and the order of fields does not. A NaN is never the same as
what stands there.
-/

namespace DocUpdate.Value

mutual

def same : Value → Value → Bool
  | minKey, minKey | maxKey, maxKey | null, null | undefined, undefined => true
  | bool x, bool y => x == y
  | int32 x, int32 y => x == y
  | int64 x, int64 y => x == y
  | double x, double y => x.same y
  | decimal x, decimal y => x == y
  | string x, string y => x == y
  | symbol x, symbol y => x == y
  | document xs, document ys => xs.length == ys.length && sameFields xs ys
  | array xs, array ys => sameItems xs ys
  | binary s xs, binary t ys => s == t && xs == ys
  | objectId x, objectId y => x == y
  | date x, date y => x == y
  | timestamp s i, timestamp t j => s == t && i == j
  | regex p o, regex q r => p == q && o == r
  | dbPointer c x, dbPointer d y => c == d && x == y
  | javascript c, javascript d => c == d
  | javascriptWithScope c s, javascriptWithScope d t =>
    c == d && s.length == t.length && sameFields s t
  | _, _ => false

/-- Every field on the left stands on the right, at any place, with the same value. -/
def sameFields : List (String × Value) → List (String × Value) → Bool
  | [], _ => true
  | (k, v) :: xs, ys =>
    (match Fields.get? ys k with
      | some w => same v w
      | none => false) && sameFields xs ys

def sameItems : List Value → List Value → Bool
  | [], [] => true
  | v :: xs, w :: ys => same v w && sameItems xs ys
  | _, _ => false

end

end DocUpdate.Value
