import DocUpdate.Condition.Matching

/-!
# What stands inside a condition

Queries are built from queries and in the end from predicates, and predicates are built from
predicates by negation alone. A list of parts holds if all of them do or if one does.
-/

namespace DocUpdate

section

variable {α : Type} {xs : List α} {f g : α → Bool}

theorem all_congr_of_mem (h : ∀ x ∈ xs, f x = g x) : xs.all f = xs.all g := by
  rw [Bool.eq_iff_iff, List.all_eq_true, List.all_eq_true]
  exact forall₂_congr fun x hx => by rw [h x hx]

theorem any_congr_of_mem (h : ∀ x ∈ xs, f x = g x) : xs.any f = xs.any g := by
  rw [Bool.eq_iff_iff, List.any_eq_true, List.any_eq_true]
  exact exists_congr fun x => and_congr_right fun hx => by rw [h x hx]

end

namespace Predicate

/-- A predicate with no predicates in it. -/
def isLeaf : Predicate → Bool
  | negation _ => false
  | _ => true

@[elab_as_elim]
theorem induction {motive : Predicate → Prop}
    (negation : ∀ inner : List Predicate, (∀ p ∈ inner, motive p) → motive (negation inner))
    (leaf : ∀ p : Predicate, p.isLeaf = true → motive p) : ∀ p, motive p
  | .negation inner => negation inner fun p hp =>
    have := List.sizeOf_lt_of_mem hp
    induction negation leaf p
  | .eq _ | .ne _ | .gt _ | .gte _ | .lt _ | .lte _ | .oneOf _ | .noneOf _ | .pattern _
  | .present _ => leaf _ rfl

theorem allHold_eq_all (ps : List Predicate) (found : Option Value) :
    allHold ps found = ps.all (·.holds found) := by
  induction ps with
  | nil => rfl
  | cons p rest ih => rw [allHold, ih, List.all_cons]

theorem holds_negation (inner : List Predicate) (found : Option Value) :
    (negation inner).holds found = !inner.all (·.holds found) := by
  rw [holds, allHold_eq_all]

mutual

/-- The predicates that a predicate is built from. -/
def leaves : Predicate → List Predicate
  | negation inner => leavesOfAll inner
  | p => [p]

def leavesOfAll : List Predicate → List Predicate
  | [] => []
  | p :: rest => leaves p ++ leavesOfAll rest

end

theorem leavesOfAll_eq_flatMap (ps : List Predicate) : leavesOfAll ps = ps.flatMap leaves := by
  induction ps with
  | nil => rfl
  | cons p rest ih => rw [leavesOfAll, ih, List.flatMap_cons]

theorem leaves_of_isLeaf {p : Predicate} (h : p.isLeaf = true) : p.leaves = [p] := by
  cases p <;> first | rfl | cases h

/-- The values that a predicate compares with. -/
def operands : Predicate → List Value
  | eq w | ne w | gt w | gte w | lt w | lte w => [w]
  | oneOf ws | noneOf ws => ws
  | _ => []

end Predicate

namespace Query

@[elab_as_elim]
theorem induction {motive : Query → Prop}
    (and : ∀ parts : List Query, (∀ q ∈ parts, motive q) → motive (and parts))
    (or : ∀ parts : List Query, (∀ q ∈ parts, motive q) → motive (or parts))
    (field : ∀ path predicates, motive (field path predicates)) : ∀ q, motive q
  | .and parts => and parts fun q hq =>
    have := List.sizeOf_lt_of_mem hq
    induction and or field q
  | .or parts => or parts fun q hq =>
    have := List.sizeOf_lt_of_mem hq
    induction and or field q
  | .field _ _ => field _ _

theorem holds_and (parts : List Query) (doc : Fields) :
    (and parts).holds doc = parts.all (·.holds doc) := by
  rw [holds]
  induction parts with
  | nil => rfl
  | cons q rest ih => rw [allHold, ih, List.all_cons]

theorem holds_or (parts : List Query) (doc : Fields) :
    (or parts).holds doc = parts.any (·.holds doc) := by
  rw [holds]
  induction parts with
  | nil => rfl
  | cons q rest ih => rw [anyHolds, ih, List.any_cons]

theorem holds_field (path : Path) (predicates : List Predicate) (doc : Fields) :
    (field path predicates).holds doc = predicates.all (·.holds (doc.readOrMissing path)) := by
  rw [holds, Predicate.allHold_eq_all]

mutual

/-- The predicates that a query is built from. -/
def leaves : Query → List Predicate
  | and parts | or parts => leavesOfAll parts
  | field _ predicates => Predicate.leavesOfAll predicates

def leavesOfAll : List Query → List Predicate
  | [] => []
  | q :: rest => leaves q ++ leavesOfAll rest

end

theorem leavesOfAll_eq_flatMap (qs : List Query) : leavesOfAll qs = qs.flatMap leaves := by
  induction qs with
  | nil => rfl
  | cons q rest ih => rw [leavesOfAll, ih, List.flatMap_cons]

end Query

end DocUpdate
