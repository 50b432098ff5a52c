import DocUpdate.Proofs.Number.Denoted
import DocUpdate.Proofs.Number.Text
import DocUpdate.Proofs.Number.Truncation
import DocUpdate.Proofs.Value.Integer
import DocUpdate.Proofs.Value.Order

/-!
# Numbers are compared exactly

Two numbers that are not a double and a decimal are compared by what their bits denote, and the
steps in which this can be done without wider numbers lose nothing.
-/

namespace DocUpdate

namespace Number

theorem widenText_eq (x : Number) : x.widenText = x.widen := by
  cases x with
  | int | double => rfl
  | decimal d => exact d.ofText_text

/-- The steps give what the comparison gives, whatever the types. -/
theorem cmpStepwise_eq_cmp {x y : Number} (hx : ∀ n, x = int n → FitsLong n)
    (hy : ∀ n, y = int n → FitsLong n) : x.cmpStepwise y = x.cmp y := by
  have hwiden (x y : Number) : x.widenText.cmp y.widenText = x.widen.cmp y.widen := by
    rw [widenText_eq, widenText_eq]
  cases x with
  | int m =>
    cases y with
    | int n => rfl
    | double y => exact Double.cmpLong_eq_cmpInt (hx m rfl) y
    | decimal e => exact hwiden (int m) (decimal e)
  | double x =>
    cases y with
    | int n => exact congrArg Ordering.swap (Double.cmpLong_eq_cmpInt (hy n rfl) x)
    | double y => rfl
    | decimal e => exact hwiden (double x) (decimal e)
  | decimal d => cases y <;> exact hwiden (decimal d) _

end Number

namespace Value

/-- Numbers are compared by what they denote, except a double and a decimal. To compare them in
steps gives the same. -/
theorem cmp_numbers_exactly {a b : Value} {x y : Number} (ha : a.number? = some x)
    (hb : b.number? = some y) (h : ¬ x.Mixed y) :
    a.cmp b = compare x.denoted y.denoted ∧ x.cmpStepwise y = a.cmp b := by
  rw [cmp_of_number ha hb]
  constructor
  · rw [Number.cmp_eq_size h, Size.cmp_eq_compare_denoted, Number.denoted_size,
      Number.denoted_size]
  · exact Number.cmpStepwise_eq_cmp (fun n hn => fits_of_number? (hn ▸ ha))
      (fun n hn => fits_of_number? (hn ▸ hb))

/-- The integer after the 53rd power of two is no double. -/
theorem cmp_long_with_double_before :
    let a := int64 9007199254740993
    let b := double ⟨0x4340000000000000⟩
    let x := Number.int 9007199254740993
    let y := Number.double ⟨0x4340000000000000⟩
    a.number? = some x ∧ b.number? = some y ∧ ¬ x.Mixed y ∧ a.cmp b = .gt ∧
      compare x.denoted y.denoted = .gt ∧ x.cmpStepwise y = .gt := by
  intro a b x y
  obtain ⟨hexact, hsteps⟩ := cmp_numbers_exactly (a := a) (b := b) (x := x) (y := y) rfl rfl id
  have hcmp : a.cmp b = .gt := by decide
  exact ⟨rfl, rfl, id, hcmp, hexact.symm.trans hcmp, hsteps.trans hcmp⟩

end Value

end DocUpdate
