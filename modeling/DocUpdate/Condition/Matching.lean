import DocUpdate.Condition.Basic
import DocUpdate.Value.Order

/-!
# When a condition holds

A test of an array holds of the array itself or of one of its items. A missing value is
like null to a comparison and unlike everything else. Comparisons by size hold between
values of one place in the order of types only.
-/

namespace DocUpdate

namespace Predicate

/-- A test of a value itself or, for an array, of one of its items. -/
def anywhere (test : Value → Bool) (v : Value) : Bool :=
  match v with
  | .array items => test v || items.any test
  | _ => test v

/-- A test of a value that may be missing. -/
def onOptional (missing : Bool) (test : Value → Bool) : Option Value → Bool
  | none => missing
  | some v => anywhere test v

/-- A comparison by size. -/
def ordered (operand : Value) (accept : Ordering → Bool) (v : Value) : Bool :=
  v.rank == operand.rank && accept (v.cmp operand)

/-- A member of a list: an equal value, or a pattern that matches. -/
def isMember (v member : Value) : Bool :=
  match member with
  | .regex text options =>
    (match Pattern.compile text options with
      | .ok p => p.isMatch v
      | .error _ => false) || v.equal member
  | _ => v.equal member

mutual

/-- Whether a predicate holds of a value that may be missing. -/
def holds : Predicate → Option Value → Bool
  | eq w, v => onOptional w.isNull (·.equal w) v
  | ne w, v => !onOptional w.isNull (·.equal w) v
  | gt w, v => onOptional false (ordered w (· == .gt)) v
  | gte w, v => onOptional w.isNull (ordered w (· != .lt)) v
  | lt w, v => onOptional false (ordered w (· == .lt)) v
  | lte w, v => onOptional w.isNull (ordered w (· != .gt)) v
  | oneOf ws, v => onOptional (ws.any (·.isNull)) (fun x => ws.any (isMember x)) v
  | noneOf ws, v => !onOptional (ws.any (·.isNull)) (fun x => ws.any (isMember x)) v
  | pattern p, v => onOptional false p.isMatch v
  | present expected, v => v.isSome == expected
  | negation inner, v => !allHold inner v

def allHold : List Predicate → Option Value → Bool
  | [], _ => true
  | p :: rest, v => p.holds v && allHold rest v

end

end Predicate

namespace Query

mutual

/-- Whether a query holds of a document. A path that is blocked finds nothing. -/
def holds : Query → Fields → Bool
  | and parts, doc => allHold parts doc
  | or parts, doc => anyHolds parts doc
  | field path predicates, doc => Predicate.allHold predicates (doc.readOrMissing path)

def allHold : List Query → Fields → Bool
  | [], _ => true
  | q :: rest, doc => q.holds doc && allHold rest doc

def anyHolds : List Query → Fields → Bool
  | [], _ => false
  | q :: rest, doc => q.holds doc || anyHolds rest doc

end

end Query

/-- Whether an item meets a condition. Only documents meet a query. -/
def Condition.matches (c : Condition) (item : Value) : Bool :=
  match c with
  | equals value => item.equal value
  | pattern p literal => p.isMatch item || item.equal literal
  | predicates all => Predicate.allHold all (some item)
  | query q =>
    match item with
    | .document fields => q.holds fields
    | _ => false

end DocUpdate
