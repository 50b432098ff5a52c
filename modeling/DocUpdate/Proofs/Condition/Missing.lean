import DocUpdate.Condition.Reader
import DocUpdate.Proofs.Condition.Comparison
import DocUpdate.Proofs.Condition.Parts
import DocUpdate.Proofs.Path.Place

/-!
# Missing values and null

A condition that neither asks whether a field is there nor compares with undefined does not tell
a field that holds null from one that is missing.
-/

namespace DocUpdate

namespace Value

/-- Null has the place of null and undefined in the order of types. -/
theorem null_equal {w : Value} (h : w.kind ≠ .undefined) : null.equal w = w.isNull := by
  cases w <;> first | rfl | exact absurd rfl h

end Value

namespace Predicate

/-- Only the content of a value matters, and null is told from undefined. -/
def AsksContent (p : Predicate) : Prop :=
  (∀ expected, p ≠ present expected) ∧ ∀ w ∈ p.operands, w.kind ≠ .undefined

theorem ordered_null {w : Value} (h : w.kind ≠ .undefined) (accept : Ordering → Bool) :
    ordered w accept .null = (w.isNull && accept .eq) := by
  cases w <;> first | rfl | exact absurd rfl h

/-- Null matches no pattern. -/
theorem isMember_null {w : Value} (h : w.kind ≠ .undefined) : isMember .null w = w.isNull := by
  have hpattern : w.pattern?.any (·.isMatch .null) = false := by cases w.pattern? <;> rfl
  rw [isMember_eq, Value.null_equal h, hpattern, Bool.or_false]

theorem any_isMember_null {ws : List Value} (h : ∀ w ∈ ws, w.kind ≠ .undefined) :
    ws.any (isMember .null) = ws.any (·.isNull) :=
  any_congr_of_mem fun w hw => isMember_null (h w hw)

/-- A predicate without parts. -/
theorem holds_none_of_leaf {p : Predicate} (hleaf : p.isLeaf = true) (h : p.AsksContent) :
    p.holds none = p.holds (some .null) := by
  obtain ⟨hpresent, hoperands⟩ := h
  cases p
  case present expected => exact absurd rfl (hpresent expected)
  case negation inner => cases hleaf
  case pattern p => rfl
  case oneOf ws => exact (any_isMember_null hoperands).symm
  case noneOf ws => exact congrArg not (any_isMember_null hoperands).symm
  all_goals
    have hw := hoperands _ (List.mem_singleton_self _)
  case eq w => exact (Value.null_equal hw).symm
  case ne w => exact congrArg not (Value.null_equal hw).symm
  all_goals
    simp only [holds, onOptional, anywhere, ordered_null hw]
    simp

/-- What is missing is like null to a predicate. -/
theorem holds_none_eq_null {p : Predicate} (h : ∀ leaf ∈ p.leaves, leaf.AsksContent) :
    p.holds none = p.holds (some .null) := by
  induction p using Predicate.induction with
  | negation inner ih =>
    simp only [leaves, leavesOfAll_eq_flatMap, List.mem_flatMap] at h
    rw [holds_negation, holds_negation]
    congr 1
    apply all_congr_of_mem
    intro q hq
    exact ih q hq fun leaf hleaf => h leaf ⟨q, hq, hleaf⟩
  | leaf p hp =>
    rw [leaves_of_isLeaf hp] at h
    exact holds_none_of_leaf hp (h p (List.mem_singleton_self p))

end Predicate

/-! ## Queries -/

theorem Fields.readOrMissing_eq (doc : Fields) (path : Path) :
    doc.readOrMissing path = (doc.place path).value? := by
  unfold readOrMissing
  rw [read_eq]
  cases doc.place path <;> rfl

section

variable {doc : Fields} {name : String} {q : Query}

/-- A path that ends at a field reads its null where it was and nothing once it is gone. Where a
path goes on from a null it finds nothing either way. -/
theorem Fields.readOrMissing_erase (h : doc.get? name = some .null) (path : Path) :
    (doc.erase name).readOrMissing path = doc.readOrMissing path ∨
      (doc.erase name).readOrMissing path = none ∧ doc.readOrMissing path = some .null := by
  simp only [readOrMissing_eq, place_eq]
  by_cases hname : name = path.head.name
  · subst hname
    rw [h, get?_erase_self]
    cases path.tail with
    | nil => exact .inr ⟨rfl, rfl⟩
    | cons s rest => exact .inl rfl
  · left
    rw [get?_erase_of_ne hname]

theorem Query.holds_erase (h : doc.get? name = some .null)
    (hq : ∀ leaf ∈ q.leaves, leaf.AsksContent) : q.holds (doc.erase name) = q.holds doc := by
  induction q using Query.induction with
  | and parts ih =>
    simp only [leaves, leavesOfAll_eq_flatMap, List.mem_flatMap] at hq
    rw [holds_and, holds_and]
    apply all_congr_of_mem
    intro part hpart
    exact ih part hpart fun leaf hleaf => hq leaf ⟨part, hpart, hleaf⟩
  | or parts ih =>
    simp only [leaves, leavesOfAll_eq_flatMap, List.mem_flatMap] at hq
    rw [holds_or, holds_or]
    apply any_congr_of_mem
    intro part hpart
    exact ih part hpart fun leaf hleaf => hq leaf ⟨part, hpart, hleaf⟩
  | field path predicates =>
    simp only [leaves, Predicate.leavesOfAll_eq_flatMap, List.mem_flatMap] at hq
    rw [holds_field, holds_field]
    rcases Fields.readOrMissing_erase h path with hsame | ⟨hnone, hnull⟩
    · rw [hsame]
    · rw [hnone, hnull]
      apply all_congr_of_mem
      intro p hp
      exact Predicate.holds_none_eq_null fun leaf hleaf => hq leaf ⟨p, hp, hleaf⟩

/-- Removing a field that holds null changes no match. -/
theorem Condition.matches_erase_of_null (hnull : doc.get? name = some .null)
    (hq : ∀ leaf ∈ q.leaves, leaf.AsksContent) :
    (query q).matches (.document (doc.erase name)) = (query q).matches (.document doc) :=
  q.holds_erase hnull hq

/-- A null and the paths that lead to it and through it. -/
theorem Condition.matches_without_null_field :
    let operand : Value := .document
      [("a", .document [("$not", .document [("$gt", .null), ("$lte", .int32 1)])]),
        ("$or", .array [.document [("a.b", .int32 2)],
          .document [("a", .document [("$in", .array [.regex "x" "", .null])])]])]
    let doc : Fields := [("b", .int32 1), ("a", .null), ("c", .array [])]
    ∃ q, parse operand = .ok (query q) ∧ doc.get? "a" = some .null ∧
      (∀ leaf ∈ q.leaves, leaf.AsksContent) ∧ (query q).matches (.document doc) = true ∧
      (query q).matches (.document [("b", .int32 1), ("c", .array [])]) = true := by
  intro operand doc
  let a : Segment := ⟨"a", by decide, by decide⟩
  let b : Segment := ⟨"b", by decide, by decide⟩
  let negated : Predicate := .negation [.gt .null, .lte (.int32 1)]
  let q : Query := .and [.field ⟨a, []⟩ [negated],
    .or [.field ⟨a, [b]⟩ [.eq (.int32 2)], .field ⟨a, []⟩ [.oneOf [.regex "x" "", .null]]]]
  have hnull : doc.get? "a" = some .null := rfl
  have hq : ∀ leaf ∈ q.leaves, leaf.AsksContent := by
    have hleaves : q.leaves = [.gt .null, .lte (.int32 1), .eq (.int32 2),
      .oneOf [.regex "x" "", .null]] := rfl
    rw [hleaves]
    simp [Predicate.AsksContent, Predicate.operands, Value.kind]
  have hmatches : (query q).matches (.document doc) = true := by decide +kernel
  exact ⟨q, rfl, hnull, hq, hmatches, (matches_erase_of_null hnull hq).trans hmatches⟩

end

end DocUpdate
