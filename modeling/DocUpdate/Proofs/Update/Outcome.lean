import DocUpdate.Proofs.Update.Plan
import DocUpdate.Proofs.Value.Parts

/-!
# What a mutation can come to

However the operands differ, there are four outcomes: nothing happens, one value is put in its
place or taken away, the items of an array are replaced, or a field gets another name.
-/

namespace DocUpdate

/-! ## Values that are computed -/

namespace Value

theorem isPlain_longOrDouble (op : Arith) (a b : Int) :
    (longOrDouble op a b).isPlain = true := by
  unfold longOrDouble
  split <;> rfl

theorem isPlain_of_arithmetic {op : Arith} {current operand v : Value}
    (h : arithmetic op current operand = some v) : v.isPlain = true := by
  unfold arithmetic at h
  split at h
  · cases h
    unfold intOrWider
    split
    · rfl
    · exact isPlain_longOrDouble _ _ _
  · split at h
    · cases h
      unfold combine
      split
      · exact isPlain_longOrDouble _ _ _
      all_goals rfl
    · cases h

theorem isPlain_of_zeroLike {v zero : Value} (h : v.zeroLike = some zero) :
    zero.isPlain = true := by
  cases v <;> cases h <;> rfl

theorem isPlain_of_isNumeric {v : Value} (h : v.isNumeric) : v.isPlain = true := by
  cases v <;> first | rfl | cases h

end Value

theorem Edit.isPlain_dateValue (kind : DateKind) (options : Options) :
    (dateValue kind options).isPlain = true := by
  cases kind <;> rfl

theorem Edit.isPlain_of_bitStep {acc result : Value} {step : BitOp × Value}
    (h : bitStep? acc step = some result) : result.isPlain = true := by
  unfold bitStep? at h
  split at h
  · cases h
    rfl
  · simp only [bind, Option.bind_eq_some_iff] at h
    obtain ⟨x, -, y, -, h⟩ := h
    cases h
    rfl

theorem Edit.isPlain_of_bitSteps {steps : List (BitOp × Value)} {start result : Value}
    (hstart : start.isPlain = true) (h : steps.foldlM bitStep? start = some result) :
    result.isPlain = true := by
  induction steps generalizing start with
  | nil =>
    cases h
    exact hstart
  | cons step rest ih =>
    rw [List.foldlM_cons] at h
    obtain ⟨mid, hmid, h⟩ := Option.bind_eq_some_iff.mp h
    exact ih (isPlain_of_bitStep hmid) h

theorem Edit.isPlain_bitStart (steps : List (BitOp × Value)) :
    (bitStart steps).isPlain = true := by
  unfold bitStart
  split <;> rfl

/-! ## Errors and plans -/

/-- What a mutation can run into. -/
def applyKinds : List ErrorKind := [.pathConflict, .typeMismatch, .invalidPath, .invalidOperand]

namespace Planned

/-- A plan with `Q`, or an error that a mutation can run into, or no end of sorting. -/
def Gives (Q : Plan → Prop) : Planned → Prop
  | .ok plan => Q plan
  | .error e => e.kind ∈ applyKinds
  | .unordered => True

variable {Q : Plan → Prop} {planned : Planned} {path : Path} {place : Place} {plan : Plan}

theorem Gives.of_ok (h : planned.Gives Q) (hplan : planned = .ok plan) : Q plan := by
  rw [hplan] at h
  exact h

theorem Gives.kind_mem (h : planned.Gives Q) {e : UpdateError} (he : planned = .error e) :
    e.kind ∈ applyKinds := by
  rw [he] at h
  exact h

theorem gives_error {e : UpdateError} (h : applyKinds.contains e.kind = true) :
    Gives Q (.error e) := List.contains_iff_mem.mp h

/-! ## Single values -/

theorem forWrite_ok {next : Option Value → Planned} (h : forWrite path place next = .ok plan) :
    next place.value? = .ok plan := by
  cases place <;> first | exact h | cases h

theorem forRead_ok {next : Option Value → Planned} (h : forRead path place next = .ok plan) :
    next place.value? = .ok plan := by
  cases place <;> first | exact h | cases h

theorem gives_forWrite {next : Option Value → Planned}
    (h : ∀ found, place.value? = found → Gives Q (next found)) :
    Gives Q (forWrite path place next) := by
  cases place
  case blocked walk => exact gives_error rfl
  all_goals exact h _ rfl

theorem gives_forRead {next : Option Value → Planned}
    (h : ∀ found, place.value? = found → Gives Q (next found)) :
    Gives Q (forRead path place next) := by
  cases place
  case blocked walk => exact gives_error rfl
  all_goals exact h _ rfl

theorem gives_write {value : Value}
    (hvalue : place.fault? = none → Q ⟨true, [⟨path, some value⟩]⟩) :
    Gives Q (write path place value) := by
  unfold write
  split
  · exact gives_error rfl
  · rename_i hfault
    exact hvalue hfault

theorem gives_setValue {value : Value}
    (hkeep : ∀ current, place = .found current → current.same value → Q ⟨false, []⟩)
    (hvalue : place.fault? = none → Q ⟨true, [⟨path, some value⟩]⟩) :
    Gives Q (setValue path place value) := by
  refine gives_forWrite fun found hfound => ?_
  split
  · split
    · rename_i hsame
      exact hkeep _ (Place.value?_eq_some_iff.mp hfound) hsame
    · exact gives_write hvalue
  · exact gives_write hvalue

/-- Either a value that is stored alike is left, or the new one is written. -/
theorem setValue_ok {value : Value} (h : setValue path place value = .ok plan) :
    (∃ current, place = .found current ∧ current.same value ∧ plan = ⟨false, []⟩) ∨
      (place.fault? = none ∧ plan = ⟨true, [⟨path, some value⟩]⟩) := by
  have hgives : (setValue path place value).Gives fun plan =>
      (∃ current, place = .found current ∧ current.same value ∧ plan = ⟨false, []⟩) ∨
        (place.fault? = none ∧ plan = ⟨true, [⟨path, some value⟩]⟩) :=
    gives_setValue (fun current hplace hsame => .inl ⟨current, hplace, hsame, rfl⟩)
      fun hfault => .inr ⟨hfault, rfl⟩
  exact hgives.of_ok h

theorem gives_inc {amount : Value} (hkeep : Q ⟨false, []⟩)
    (hamount : Q ⟨true, [⟨path, some amount⟩]⟩)
    (hnumber : ∀ v : Value, v.isPlain = true → Q ⟨true, [⟨path, some v⟩]⟩) :
    Gives Q (inc path place amount) := by
  refine gives_forWrite fun found _ => ?_
  split
  · exact gives_setValue (fun _ _ _ => hkeep) fun _ => hamount
  · split
    · rename_i sum hsum
      have hplain := hnumber sum (Value.isPlain_of_arithmetic hsum)
      exact gives_setValue (fun _ _ _ => hkeep) fun _ => hplain
    · exact gives_error rfl

theorem gives_mul {factor : Value} (hkeep : Q ⟨false, []⟩)
    (hnumber : ∀ v : Value, v.isPlain = true → Q ⟨true, [⟨path, some v⟩]⟩) :
    Gives Q (mul path place factor) := by
  refine gives_forWrite fun found _ => ?_
  split
  · split
    · rename_i zero hzero
      have hplain := hnumber zero (Value.isPlain_of_zeroLike hzero)
      exact gives_setValue (fun _ _ _ => hkeep) fun _ => hplain
    · exact gives_error rfl
  · split
    · rename_i product hproduct
      have hplain := hnumber product (Value.isPlain_of_arithmetic hproduct)
      exact gives_setValue (fun _ _ _ => hkeep) fun _ => hplain
    · exact gives_error rfl

/-- A bound is left where a value without parts is on the right side of it already. -/
theorem gives_bound {op : Operator} {wanted : Ordering} {operand : Value}
    (hkeep : ∀ current, place = .found current → current.hasParts = false →
      operand.cmp current ≠ wanted → Q ⟨false, []⟩)
    (hoperand : place.fault? = none → Q ⟨true, [⟨path, some operand⟩]⟩) :
    Gives Q (bound op wanted path place operand) := by
  refine gives_forWrite fun found hfound => ?_
  split
  · exact gives_write hoperand
  · exact gives_error rfl
  · exact gives_error rfl
  · rename_i current harray hdocument
    split
    · exact gives_write hoperand
    · rename_i hcmp
      refine hkeep current (Place.value?_eq_some_iff.mp hfound) ?_ (by simpa using hcmp)
      cases current
      case array items => exact absurd rfl (harray items)
      case document fields => exact absurd rfl (hdocument fields)
      all_goals rfl

theorem gives_bitFrom {steps : List (BitOp × Value)} {start : Value}
    (hstart : start.isPlain = true) (hkeep : Q ⟨false, []⟩)
    (hnumber : ∀ v : Value, v.isPlain = true → Q ⟨true, [⟨path, some v⟩]⟩) :
    Gives Q (bitFrom path place steps start) := by
  unfold bitFrom
  split
  · rename_i result hresult
    have hplain := hnumber result (Edit.isPlain_of_bitSteps hstart hresult)
    exact gives_setValue (fun _ _ _ => hkeep) fun _ => hplain
  · exact gives_error rfl

theorem gives_bit {steps : List (BitOp × Value)} (hkeep : Q ⟨false, []⟩)
    (hnumber : ∀ v : Value, v.isPlain = true → Q ⟨true, [⟨path, some v⟩]⟩) :
    Gives Q (bit path place steps) := by
  refine gives_forWrite fun found _ => ?_
  split
  · exact gives_bitFrom (Edit.isPlain_bitStart steps) hkeep hnumber
  · exact gives_bitFrom rfl hkeep hnumber
  · exact gives_bitFrom rfl hkeep hnumber
  · exact gives_error rfl

theorem gives_remove (hkeep : place.value? = none → Q ⟨false, []⟩)
    (hnone : Q ⟨true, [⟨path, none⟩]⟩) : Gives Q (remove path place) := by
  unfold remove
  split
  · exact hnone
  · rename_i hmissing
    exact hkeep hmissing

theorem gives_rename {target : Path} (hkeep : place.value? = none → Q ⟨false, []⟩)
    (hvalue : ∀ v, place = .found v →
      Q ⟨true, [⟨path, none⟩, ⟨target, none⟩, ⟨target, some v⟩]⟩) :
    Gives Q (rename path place target) := by
  refine gives_forRead fun found hfound => ?_
  split
  · exact hkeep hfound
  · exact hvalue _ (Place.value?_eq_some_iff.mp hfound)

/-! ## Arrays -/

theorem gives_edited {edit : ItemsEdit} {items : List Value}
    (h : ∀ result, edit.result? items = some result →
      Q ⟨edit.changed items result, [⟨path, some (.array result)⟩]⟩) :
    Gives Q (edited path items edit) := by
  unfold edited
  split
  · rename_i result hresult
    exact h result hresult
  · trivial

theorem gives_created {edit : ItemsEdit}
    (h : ∀ result, place.fault? = none → edit.result? [] = some result →
      Q ⟨true, [⟨path, some (.array result)⟩]⟩) :
    Gives Q (created path place edit) := by
  unfold created
  split
  · exact gives_error rfl
  · rename_i hfault
    split
    · rename_i result hresult
      exact h result hfault hresult
    · trivial

theorem gives_grow {op : Operator} {edit : ItemsEdit}
    (hcreated : ∀ result, place.fault? = none → edit.result? [] = some result →
      Q ⟨true, [⟨path, some (.array result)⟩]⟩)
    (hitems : ∀ items result, place = .found (.array items) → edit.result? items = some result →
      Q ⟨edit.changed items result, [⟨path, some (.array result)⟩]⟩) :
    Gives Q (grow op path place edit) := by
  refine gives_forWrite fun found hfound => ?_
  split
  · exact gives_created hcreated
  · exact gives_edited fun result => hitems _ result (Place.value?_eq_some_iff.mp hfound)
  · exact gives_error rfl

theorem gives_shrink {op : Operator} {edit : ItemsEdit} (hkeep : Q ⟨false, []⟩)
    (hitems : ∀ items result, place = .found (.array items) → edit.result? items = some result →
      Q ⟨edit.changed items result, [⟨path, some (.array result)⟩]⟩) :
    Gives Q (shrink op path place edit) := by
  refine gives_forRead fun found hfound => ?_
  split
  · exact hkeep
  · exact gives_edited fun result => hitems _ result (Place.value?_eq_some_iff.mp hfound)
  · exact gives_error rfl

end Planned

/-! ## All operators -/

/-- How an array operator edits the items it finds. -/
def Action.itemsEdit? : Action → Option ItemsEdit
  | .addToSet values => some (.counted (Items.union · values))
  | .push p => some (.push p)
  | .pop side => some (.counted (Items.pop side))
  | .pull condition => some (.counted (Items.pull condition))
  | .pullAll values => some (.counted (Items.pullAll values))
  | _ => none

namespace Mutation

/-- The plans that a mutation can have for a place. -/
inductive Outcome (m : Mutation) (place : Place) : Plan → Prop where
  | kept : Outcome m place ⟨false, []⟩
  | changed (value : Option Value) : Outcome m place ⟨true, [⟨m.path, value⟩]⟩
  | edited {edit : ItemsEdit} {items result : List Value}
      (action : m.action.itemsEdit? = some edit) (found : place = .found (.array items))
      (made : edit.result? items = some result) :
      Outcome m place ⟨edit.changed items result, [⟨m.path, some (.array result)⟩]⟩
  | renamed {target : Path} (value : Value) (action : m.action = .rename target) :
      Outcome m place ⟨true, [⟨m.path, none⟩, ⟨target, none⟩, ⟨target, some value⟩]⟩

/-- There are no other outcomes but that sorting stops, and few kinds of errors. -/
theorem gives_outcome (options : Options) (m : Mutation) (place : Place) :
    (m.plan options place).Gives (m.Outcome place) := by
  unfold Mutation.plan
  cases ha : m.action
  case set | currentDate => exact Planned.gives_setValue (fun _ _ _ => .kept) fun _ => .changed _
  case unset => exact Planned.gives_remove (fun _ => .kept) (.changed none)
  case setOnInsert value =>
    dsimp only
    split
    · exact Planned.gives_setValue (fun _ _ _ => .kept) fun _ => .changed _
    · exact .kept
  case inc amount => exact Planned.gives_inc .kept (.changed _) fun v _ => .changed (some v)
  case mul factor => exact Planned.gives_mul .kept fun v _ => .changed (some v)
  case min | max => exact Planned.gives_bound (fun _ _ _ _ => .kept) fun _ => .changed _
  case rename target => exact Planned.gives_rename (fun _ => .kept) fun v _ => .renamed v ha
  case bit steps => exact Planned.gives_bit .kept fun v _ => .changed (some v)
  case addToSet | push =>
    exact Planned.gives_grow (fun _ _ _ => .changed _) fun items result hitems hresult =>
      .edited (by rw [ha]; rfl) hitems hresult
  case pop | pull | pullAll =>
    exact Planned.gives_shrink .kept fun items result hitems hresult =>
      .edited (by rw [ha]; rfl) hitems hresult

theorem outcome_of_plan {options : Options} {m : Mutation} {place : Place} {plan : Plan}
    (h : m.plan options place = .ok plan) : m.Outcome place plan :=
  (gives_outcome options m place).of_ok h

/-! ## What is changed -/

/-- A mutation changes nothing but what it claims. -/
theorem changes_claimed {options : Options} {m : Mutation} {place : Place} {plan : Plan}
    (h : m.plan options place = .ok plan) {c : Change} (hc : c ∈ plan.changes) :
    c.path ∈ m.claims := by
  cases outcome_of_plan h with
  | kept => simp at hc
  | changed value =>
    obtain rfl := List.mem_singleton.mp hc
    exact m.path_mem_claims
  | edited =>
    obtain rfl := List.mem_singleton.mp hc
    exact m.path_mem_claims
  | renamed value ha =>
    simp only [List.mem_cons, List.not_mem_nil, or_false] at hc
    rcases hc with rfl | rfl | rfl <;> simp [claims, ha]

end Mutation

end DocUpdate
