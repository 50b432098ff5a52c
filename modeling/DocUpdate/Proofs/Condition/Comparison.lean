import DocUpdate.Condition.Matching
import DocUpdate.Proofs.Value.Order

/-!
# Comparisons as predicates

A comparison is tried on a value and, if it is an array, on its items too. What is at least as
large as an operand is larger or equal, wherever it is found, and a value that is no array is
smaller, equal or larger if it has the place of the operand in the order of types.
-/

namespace DocUpdate

/-- The pattern that a value stands for as a member of a list. -/
def Value.pattern? : Value → Option Pattern
  | regex text options => (Pattern.compile text options).toOption
  | _ => none

namespace Predicate

/-! ## Tests of a value and of its items -/

theorem anywhere_of_not_array {v : Value} (h : v.kind ≠ .array) (test : Value → Bool) :
    anywhere test v = test v := by
  cases v <;> first | rfl | exact absurd rfl h

theorem anywhere_or (first second : Value → Bool) (v : Value) :
    anywhere (fun x => first x || second x) v = (anywhere first v || anywhere second v) := by
  cases v
  case array items =>
    rw [Bool.eq_iff_iff]
    simp only [anywhere, Bool.or_eq_true, List.any_eq_true, and_or_left, exists_or]
    exact or_or_or_comm
  all_goals rfl

theorem anywhere_false (v : Value) : anywhere (fun _ => false) v = false := by
  cases v <;> simp [anywhere]

theorem onOptional_or (a b : Bool) (first second : Value → Bool) (found : Option Value) :
    onOptional (a || b) (fun x => first x || second x) found =
      (onOptional a first found || onOptional b second found) := by
  cases found with
  | none => rfl
  | some v => exact anywhere_or first second v

theorem onOptional_any (ws : List Value) (missing : Value → Bool) (test : Value → Value → Bool)
    (found : Option Value) : onOptional (ws.any missing) (fun x => ws.any (test x)) found =
      ws.any fun w => onOptional (missing w) (test · w) found := by
  induction ws with
  | nil =>
    cases found with
    | none => rfl
    | some v => exact anywhere_false v
  | cons w rest ih =>
    simp only [List.any_cons]
    rw [onOptional_or, ih]

/-! ## Comparisons of two values -/

theorem rank_of_equal {v w : Value} (h : v.equal w) : v.rank = w.rank := by
  by_contra hne
  have hcmp : v.cmp w = .eq := by simpa [Value.equal] using h
  rw [Value.cmp_of_rank_ne hne, Nat.compare_eq_eq] at hcmp
  exact hne hcmp

theorem equal_of_rank_ne {v w : Value} (h : v.rank ≠ w.rank) : v.equal w = false := by
  rw [← Bool.not_eq_true]
  intro hequal
  exact h (rank_of_equal hequal)

theorem ordered_of_rank_ne {v w : Value} (h : v.rank ≠ w.rank) (accept : Ordering → Bool) :
    ordered w accept v = false := by
  simp [ordered, h]

theorem ordered_of_rank_eq {v w : Value} (h : v.rank = w.rank) (accept : Ordering → Bool) :
    ordered w accept v = accept (v.cmp w) := by
  simp [ordered, h]

/-- A bound that includes its operand is a bound that does not, or equality. -/
theorem ordered_or_equal {accept strict : Ordering → Bool}
    (h : ∀ o, accept o = (strict o || o == .eq)) (v w : Value) :
    ordered w accept v = (ordered w strict v || v.equal w) := by
  by_cases hrank : v.rank = w.rank
  · rw [ordered_of_rank_eq hrank, ordered_of_rank_eq hrank, h]
    rfl
  · rw [ordered_of_rank_ne hrank, ordered_of_rank_ne hrank, equal_of_rank_ne hrank]
    rfl

theorem isMember_eq (v w : Value) :
    isMember v w = (v.equal w || w.pattern?.any (·.isMatch v)) := by
  cases w
  case regex text options =>
    cases h : Pattern.compile text options with
    | ok p => simp [isMember, Value.pattern?, h, Except.toOption, Bool.or_comm]
    | error fault => simp [isMember, Value.pattern?, h, Except.toOption]
  all_goals simp [isMember, Value.pattern?]

/-! ## Predicates -/

theorem holds_gte (w : Value) (found : Option Value) :
    (gte w).holds found = ((gt w).holds found || (eq w).holds found) := by
  unfold holds
  rw [← onOptional_or, Bool.false_or]
  congr 1
  funext v
  exact ordered_or_equal (by decide) v w

theorem holds_lte (w : Value) (found : Option Value) :
    (lte w).holds found = ((lt w).holds found || (eq w).holds found) := by
  unfold holds
  rw [← onOptional_or, Bool.false_or]
  congr 1
  funext v
  exact ordered_or_equal (by decide) v w

theorem onOptional_pattern? (w : Value) (found : Option Value) :
    onOptional false (fun v => w.pattern?.any (·.isMatch v)) found =
      w.pattern?.any fun p => onOptional false p.isMatch found := by
  cases w.pattern? with
  | none =>
    cases found with
    | none => rfl
    | some v => exact anywhere_false v
  | some p => rfl

theorem holds_oneOf (ws : List Value) (found : Option Value) : (oneOf ws).holds found =
    ws.any fun w => (eq w).holds found || w.pattern?.any fun p => (pattern p).holds found := by
  unfold holds
  rw [onOptional_any]
  congr 1
  funext w
  rw [← onOptional_pattern?, ← onOptional_or, Bool.or_false]
  congr 1
  funext v
  exact isMember_eq v w

/-- Of a value that is no array, one of the strict comparisons holds if it has the place of the
operand in the order of types, and otherwise none does. -/
theorem countP_holds {v : Value} (h : v.kind ≠ .array) (w : Value) :
    [lt w, eq w, gt w].countP (·.holds (some v)) = if v.rank = w.rank then 1 else 0 := by
  have hlt : (lt w).holds (some v) = ordered w (· == .lt) v := anywhere_of_not_array h _
  have heq : (eq w).holds (some v) = v.equal w := anywhere_of_not_array h (·.equal w)
  have hgt : (gt w).holds (some v) = ordered w (· == .gt) v := anywhere_of_not_array h _
  simp only [List.countP_cons, List.countP_nil, hlt, heq, hgt]
  by_cases hrank : v.rank = w.rank
  · have hcmp : v.cmp w = .lt ∨ v.cmp w = .eq ∨ v.cmp w = .gt := by cases v.cmp w <;> simp
    rcases hcmp with hcmp | hcmp | hcmp <;>
      simp [ordered_of_rank_eq hrank, Value.equal, hcmp, hrank]
  · simp [ordered_of_rank_ne hrank, equal_of_rank_ne hrank, hrank]

/-- The comparisons agree with each other on every value, on arrays and where there is none. -/
theorem comparisons_cohere (w : Value) (ws : List Value) (found : Option Value) :
    ((gte w).holds found ↔ (gt w).holds found ∨ (eq w).holds found) ∧
    ((lte w).holds found ↔ (lt w).holds found ∨ (eq w).holds found) ∧
    ((oneOf ws).holds found ↔ ∃ u ∈ ws, (eq u).holds found ∨
      ∃ p, u.pattern? = some p ∧ (pattern p).holds found) ∧
    ∀ v, found = some v → v.kind ≠ .array →
      [lt w, eq w, gt w].countP (·.holds found) = if v.rank = w.rank then 1 else 0 := by
  refine ⟨?_, ?_, ?_, ?_⟩
  · rw [holds_gte, Bool.or_eq_true]
  · rw [holds_lte, Bool.or_eq_true]
  · rw [holds_oneOf]
    simp only [List.any_eq_true, Bool.or_eq_true, Option.any_eq_true]
  · rintro v rfl hv
    exact countP_holds hv w

/-- A string is before a symbol, and no member of the list is equal to it but a pattern matches. -/
theorem comparisons_of_string :
    let w : Value := .symbol "b"
    let v : Value := .string "axa"
    v.kind ≠ .array ∧ v.rank = w.rank ∧ [lt w, eq w, gt w].countP (·.holds (some v)) = 1 ∧
      (oneOf [.null, .regex "x" ""]).holds (some v) := by
  intro w v
  obtain ⟨-, -, hmember, hcount⟩ := comparisons_cohere w [.null, .regex "x" ""] (some v)
  have hv : v.kind ≠ .array := by decide
  have hrank : v.rank = w.rank := rfl
  have hpattern : (Value.regex "x" "").pattern?.any fun p => (pattern p).holds (some v) := by
    decide +kernel
  rw [Option.any_eq_true] at hpattern
  exact ⟨hv, hrank, (hcount v rfl hv).trans (if_pos hrank),
    hmember.mpr ⟨.regex "x" "", by simp, .inr hpattern⟩⟩

end Predicate

end DocUpdate
