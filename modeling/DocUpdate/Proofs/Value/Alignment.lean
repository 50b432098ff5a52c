import DocUpdate.Proofs.Value.Kept
import DocUpdate.Proofs.Value.Order
import DocUpdate.Value.Same

/-!
# Two ways to be equal

Values that are stored alike may have their fields in another order, and values that compare as
equal may have numbers of other types. The first are the second just where the fields of both
stand in one order.
-/

namespace DocUpdate.Value

/-! ## Names -/

/-- No name is used twice in a document or in a scope, at any depth. -/
inductive DistinctNames : Value → Prop where
  | document {fields : Fields} (hnames : fields.keys.Nodup)
      (h : ∀ field ∈ fields, DistinctNames field.2) : DistinctNames (document fields)
  | array {items : List Value} (h : ∀ item ∈ items, DistinctNames item) :
      DistinctNames (array items)
  | scope {scope : Fields} (code : String) (hnames : scope.keys.Nodup)
      (h : ∀ field ∈ scope, DistinctNames field.2) : DistinctNames (javascriptWithScope code scope)
  | plain {v : Value} (hv : v.isPlain = true) : DistinctNames v

theorem distinctNames_document {fields : Fields} : (document fields).DistinctNames ↔
    fields.keys.Nodup ∧ ∀ field ∈ fields, field.2.DistinctNames := by
  constructor
  · rintro (⟨hnames, h⟩ | _ | _ | hv)
    · exact ⟨hnames, h⟩
    · cases hv
  · rintro ⟨hnames, h⟩
    exact .document hnames h

theorem distinctNames_array {items : List Value} :
    (array items).DistinctNames ↔ ∀ item ∈ items, item.DistinctNames := by
  constructor
  · rintro (_ | h | _ | hv)
    · exact h
    · cases hv
  · exact .array

/-- A change gives no document a second field of a name but with the value it writes. -/
theorem kept_distinctNames : Kept DistinctNames where
  plain _ hv := .plain hv
  array_iff _ := distinctNames_array
  created := .document List.nodup_nil nofun
  field _ h := (distinctNames_document.mp h).2
  insert fields s v h hv := by
    obtain ⟨hnames, hfields⟩ := distinctNames_document.mp h
    refine .document ?_ fun field hfield => ?_
    · rw [Fields.keys_insert]
      exact nodup_addKey hnames
    · rcases Fields.mem_insert hfield with rfl | hfield
      · exact hv
      · exact hfields field hfield
  erase fields s h := by
    obtain ⟨hnames, hfields⟩ := distinctNames_document.mp h
    have hsub := fields.erase_sublist s.name
    exact .document ((hsub.map _).nodup hnames) fun field hfield =>
      hfields field (hsub.subset hfield)

/-- What stands inside a value repeats no name if the value does not. -/
theorem DistinctNames.of_contains {v u : Value} (hv : v.DistinctNames) (h : v.Contains u) :
    u.DistinctNames := by
  induction h with
  | self => exact hv
  | field hfield _ ih => exact ih ((distinctNames_document.mp hv).2 _ hfield)
  | item hitem _ ih => exact ih (distinctNames_array.mp hv _ hitem)
  | scope hfield _ ih =>
    cases hv with
    | scope _ _ hfields => exact ih (hfields _ hfield)
    | plain hplain => cases hplain

theorem get?_of_nodup {fields : Fields} (h : fields.keys.Nodup) {field : String × Value}
    (hfield : field ∈ fields) : fields.get? field.1 = some field.2 := by
  induction fields with
  | nil => cases hfield
  | cons first rest ih =>
    obtain ⟨hfirst, hrest⟩ := List.nodup_cons.mp h
    obtain rfl | hfield := List.mem_cons.mp hfield
    · exact if_pos rfl
    · have hne : first.1 ≠ field.1 := by
        intro heq
        have hmem : field.1 ∈ Fields.keys rest := List.mem_map_of_mem hfield
        rw [← heq] at hmem
        exact hfirst hmem
      rw [Fields.get?_cons, if_neg hne]
      exact ih hrest hfield

/-! ## Order of fields -/

mutual

/-- The fields of documents and scopes stand in one order, at every depth. -/
def aligned : Value → Value → Bool
  | document xs, document ys => alignedFields xs ys
  | array xs, array ys => alignedItems xs ys
  | javascriptWithScope _ s, javascriptWithScope _ t => alignedFields s t
  | _, _ => true

def alignedFields : List (String × Value) → List (String × Value) → Bool
  | [], [] => true
  | (k, v) :: xs, (l, w) :: ys => k == l && aligned v w && alignedFields xs ys
  | _, _ => false

def alignedItems : List Value → List Value → Bool
  | [], [] => true
  | v :: xs, w :: ys => aligned v w && alignedItems xs ys
  | _, _ => false

end

/-! ## From equality to alignment -/

theorem alignedFields_of_cmp {xs ys : Fields}
    (h : ∀ x ∈ xs, ∀ y ∈ ys, x.2.cmp y.2 = .eq → x.2.aligned y.2)
    (heq : cmpFields xs ys = .eq) : alignedFields xs ys := by
  induction xs generalizing ys with
  | nil =>
    cases ys with
    | nil => rfl
    | cons => cases heq
  | cons x xs ih =>
    cases ys with
    | nil => cases heq
    | cons y ys =>
      rw [cmpFields, Ordering.then_eq_eq, Ordering.then_eq_eq] at heq
      obtain ⟨⟨hname, hvalue⟩, hrest⟩ := heq
      have hrest := ih (fun x hx y hy => h x (by simp [hx]) y (by simp [hy])) hrest
      rw [Std.LawfulEqOrd.compare_eq_iff_eq] at hname
      simp [alignedFields, hname, h x (by simp) y (by simp) hvalue, hrest]

theorem alignedItems_of_cmp {xs ys : List Value}
    (h : ∀ x ∈ xs, ∀ y ∈ ys, x.cmp y = .eq → x.aligned y) (heq : cmpItems xs ys = .eq) :
    alignedItems xs ys := by
  induction xs generalizing ys with
  | nil =>
    cases ys with
    | nil => rfl
    | cons => cases heq
  | cons x xs ih =>
    cases ys with
    | nil => cases heq
    | cons y ys =>
      rw [cmpItems, Ordering.then_eq_eq] at heq
      have hrest := ih (fun x hx y hy => h x (by simp [hx]) y (by simp [hy])) heq.2
      simp [alignedItems, h x (by simp) y (by simp) heq.1, hrest]

/-- Values that compare as equal have their fields in one order. -/
theorem aligned_of_cmp {v w : Value} (h : v.cmp w = .eq) : v.aligned w := by
  induction v using Value.induction generalizing w with
  | document xs ih =>
    cases w
    case document ys => exact alignedFields_of_cmp (fun x hx y _ => ih x hx) h
    all_goals rfl
  | array xs ih =>
    cases w
    case array ys => exact alignedItems_of_cmp (fun x hx y _ => ih x hx) h
    all_goals rfl
  | scope c s ih =>
    cases w
    case javascriptWithScope d t =>
      rw [cmp, Ordering.then_eq_eq] at h
      exact alignedFields_of_cmp (fun x hx y _ => ih x hx) h.2
    all_goals rfl
  | plain v hv => cases v <;> first | rfl | cases hv

/-! ## From alignment to equality -/

theorem cmpFields_of_aligned {xs ys all : Fields}
    (h : ∀ x ∈ xs, ∀ y ∈ ys, x.2.same y.2 → x.2.aligned y.2 → x.2.cmp y.2 = .eq)
    (hall : ∀ y ∈ ys, all.get? y.1 = some y.2) (hsame : sameFields xs all)
    (haligned : alignedFields xs ys) : cmpFields xs ys = .eq := by
  induction xs generalizing ys with
  | nil =>
    cases ys with
    | nil => rfl
    | cons => cases haligned
  | cons x xs ih =>
    cases ys with
    | nil => cases haligned
    | cons y ys =>
      obtain ⟨k, v⟩ := x
      obtain ⟨l, w⟩ := y
      simp only [alignedFields, Bool.and_eq_true, beq_iff_eq] at haligned
      obtain ⟨⟨rfl, hvalue⟩, hrest⟩ := haligned
      -- The field of that name in the whole document is the one at this position.
      rw [sameFields, hall (k, w) (by simp), Bool.and_eq_true] at hsame
      have hvalue := h (k, v) (by simp) (k, w) (by simp) hsame.1 hvalue
      have hrest := ih (fun x hx y hy => h x (by simp [hx]) y (by simp [hy]))
        (fun y hy => hall y (by simp [hy])) hsame.2 hrest
      simp only [cmpFields, Std.compare_self, hvalue, hrest, Ordering.then_eq]

theorem cmpItems_of_aligned {xs ys : List Value}
    (h : ∀ x ∈ xs, ∀ y ∈ ys, x.same y → x.aligned y → x.cmp y = .eq)
    (hsame : sameItems xs ys) (haligned : alignedItems xs ys) : cmpItems xs ys = .eq := by
  induction xs generalizing ys with
  | nil =>
    cases ys with
    | nil => rfl
    | cons => cases haligned
  | cons x xs ih =>
    cases ys with
    | nil => cases haligned
    | cons y ys =>
      rw [alignedItems, Bool.and_eq_true] at haligned
      rw [sameItems, Bool.and_eq_true] at hsame
      have hvalue := h x (by simp) y (by simp) hsame.1 haligned.1
      have hrest := ih (fun x hx y hy => h x (by simp [hx]) y (by simp [hy])) hsame.2 haligned.2
      rw [cmpItems, hvalue, hrest]
      rfl

/-- A plain value is stored like itself only, doubles apart. -/
theorem cmp_of_same_plain {v w : Value} (hv : v.isPlain = true) (h : v.same w) :
    v.cmp w = .eq := by
  cases v <;> cases hv <;> cases w <;> try cases h
  case double.refl.double x y =>
    simp only [same, Double.same, Bool.and_eq_true, beq_iff_eq] at h
    exact h.2
  all_goals simp_all [same]

/-- Values that are stored alike compare as equal just where their fields stand in one order. -/
theorem equal_iff_aligned {v w : Value} (h : v.same w) (hw : w.DistinctNames) :
    v.equal w ↔ v.aligned w := by
  rw [equal, beq_iff_eq]
  refine ⟨aligned_of_cmp, fun haligned => ?_⟩
  induction v using Value.induction generalizing w with
  | document xs ih =>
    cases w
    case document ys =>
      cases hw with
      | document hnames hw =>
        simp only [same, Bool.and_eq_true] at h
        exact cmpFields_of_aligned (fun x hx y hy hsame => ih x hx hsame (hw y hy))
          (fun y hy => get?_of_nodup hnames hy) h.2 haligned
      | plain hplain => cases hplain
    all_goals cases h
  | array xs ih =>
    cases w
    case array ys =>
      cases hw with
      | array hw =>
        exact cmpItems_of_aligned (fun x hx y hy hsame => ih x hx hsame (hw y hy)) h haligned
      | plain hplain => cases hplain
    all_goals cases h
  | scope c s ih =>
    cases w
    case javascriptWithScope d t =>
      cases hw with
      | scope _ hnames hw =>
        simp only [same, Bool.and_eq_true, beq_iff_eq] at h
        obtain ⟨⟨rfl, -⟩, h⟩ := h
        rw [cmp, Std.compare_self]
        exact cmpFields_of_aligned (fun x hx y hy hsame => ih x hx hsame (hw y hy))
          (fun y hy => get?_of_nodup hnames hy) h haligned
      | plain hplain => cases hplain
    all_goals cases h
  | plain v hv => exact cmp_of_same_plain hv h

end DocUpdate.Value
