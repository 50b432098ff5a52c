import DocUpdate.Proofs.Value.Alignment

/-!
# Values that are not stored like themselves

A double that is NaN is not stored like any value, and neither is a value with such a double
inside. All other values are stored like themselves.
-/

namespace DocUpdate

theorem Double.same_self (x : Double) : x.same x = !x.isNaN := by
  rw [same, cmp_eq_size, Size.cmp_self]
  exact Bool.and_true _

namespace Value

/-- A double inside the value is NaN, at any depth. -/
def HasNaN (v : Value) : Prop := ∃ x : Double, x.isNaN = true ∧ v.Contains (double x)

theorem hasNaN_document {fields : Fields} :
    (document fields).HasNaN ↔ ∃ field ∈ fields, field.2.HasNaN := by
  constructor
  · rintro ⟨x, hx, hcontains⟩
    cases hcontains with
    | field hfield h => exact ⟨_, hfield, x, hx, h⟩
  · rintro ⟨field, hfield, x, hx, h⟩
    exact ⟨x, hx, .field hfield h⟩

theorem hasNaN_array {items : List Value} :
    (array items).HasNaN ↔ ∃ item ∈ items, item.HasNaN := by
  constructor
  · rintro ⟨x, hx, hcontains⟩
    cases hcontains with
    | item hitem h => exact ⟨_, hitem, x, hx, h⟩
  · rintro ⟨item, hitem, x, hx, h⟩
    exact ⟨x, hx, .item hitem h⟩

theorem hasNaN_scope {code : String} {scope : Fields} :
    (javascriptWithScope code scope).HasNaN ↔ ∃ field ∈ scope, field.2.HasNaN := by
  constructor
  · rintro ⟨x, hx, hcontains⟩
    cases hcontains with
    | scope hfield h => exact ⟨_, hfield, x, hx, h⟩
  · rintro ⟨field, hfield, x, hx, h⟩
    exact ⟨x, hx, .scope hfield h⟩

theorem hasNaN_of_plain {v : Value} (hv : v.isPlain = true) :
    v.HasNaN ↔ ∃ x, v = double x ∧ x.isNaN = true := by
  constructor
  · rintro ⟨x, hx, hcontains⟩
    cases hcontains with
    | self => exact ⟨x, rfl, hx⟩
    | _ => cases hv
  · rintro ⟨x, rfl, hx⟩
    exact ⟨x, hx, .self _⟩

theorem not_hasNaN_of_plain {v : Value} (hv : v.isPlain = true) (hne : ∀ x, v ≠ double x) :
    ¬ v.HasNaN := by
  rw [hasNaN_of_plain hv]
  rintro ⟨x, hx, -⟩
  exact hne x hx

/-! ## Stored like itself -/

theorem sameFields_iff {xs ys : Fields} :
    sameFields xs ys ↔ ∀ x ∈ xs, ∃ w, ys.get? x.1 = some w ∧ x.2.same w := by
  induction xs with
  | nil => simp [sameFields]
  | cons x rest ih =>
    obtain ⟨k, v⟩ := x
    rw [sameFields, Bool.and_eq_true, ih, List.forall_mem_cons]
    cases Fields.get? ys k <;> simp

theorem sameItems_self_iff {items : List Value} :
    sameItems items items ↔ ∀ item ∈ items, item.same item := by
  induction items with
  | nil => simp [sameItems]
  | cons item rest ih => rw [sameItems, Bool.and_eq_true, ih, List.forall_mem_cons]

theorem sameFields_self_iff {fields : Fields} (h : fields.keys.Nodup) :
    sameFields fields fields ↔ ∀ field ∈ fields, field.2.same field.2 := by
  rw [sameFields_iff]
  refine forall₂_congr fun field hfield => ?_
  rw [get?_of_nodup h hfield]
  simp

/-- A value is stored like itself unless there is a NaN in it. -/
theorem same_self_iff {v : Value} (h : v.DistinctNames) : v.same v ↔ ¬ v.HasNaN := by
  induction v using Value.induction with
  | document fields ih =>
    obtain ⟨hnames, hfields⟩ := distinctNames_document.mp h
    rw [same, beq_self_eq_true, Bool.true_and, sameFields_self_iff hnames, hasNaN_document]
    push Not
    exact forall₂_congr fun field hfield => ih field hfield (hfields field hfield)
  | array items ih =>
    cases h with
    | array hitems =>
      rw [same, sameItems_self_iff, hasNaN_array]
      push Not
      exact forall₂_congr fun item hitem => ih item hitem (hitems item hitem)
    | plain hv => cases hv
  | scope code scope ih =>
    cases h with
    | scope _ hnames hfields =>
      rw [same, beq_self_eq_true, beq_self_eq_true, Bool.true_and, Bool.true_and,
        sameFields_self_iff hnames, hasNaN_scope]
      push Not
      exact forall₂_congr fun field hfield => ih field hfield (hfields field hfield)
    | plain hv => cases hv
  | plain v hv =>
    rw [hasNaN_of_plain hv]
    cases v <;> cases hv <;> simp [same, Double.same_self]

end Value

end DocUpdate
