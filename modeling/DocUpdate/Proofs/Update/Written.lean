import DocUpdate.Pipeline
import DocUpdate.Proofs.Update.Effect
import DocUpdate.Proofs.Update.Items
import DocUpdate.Proofs.Value.Alignment

/-!
# What an update writes

An update writes what its document lists, what stands in the document it is applied to, and
values without parts that it computes. So a property that changes keep is kept by every update
that lists values with it. That no name is used twice is such a property.
-/

namespace DocUpdate

open Value (Kept)

/-- The values that an update lists to be written as they are. -/
def Action.written : Action → List Value
  | .set value | .setOnInsert value | .min value | .max value => [value]
  | .push p => p.each
  | .addToSet values => values
  | _ => []

/-! ## Plans -/

/-- What the plan writes has the property. -/
def Plan.Writes (P : Value → Prop) (plan : Plan) : Prop := ∀ c ∈ plan.changes, ∀ v ∈ c.value, P v

section

variable {P : Value → Prop} {changed : Bool} {path : Path} {value : Value}

theorem Plan.writes_keep : Plan.Writes P ⟨false, []⟩ := by
  intro c hc
  cases hc

theorem Plan.writes_put (h : P value) : Plan.Writes P ⟨changed, [⟨path, some value⟩]⟩ := by
  intro c hc v hv
  obtain rfl := List.mem_singleton.mp hc
  cases hv
  exact h

theorem Plan.writes_remove : Plan.Writes P ⟨changed, [⟨path, none⟩]⟩ := by
  intro c hc v hv
  obtain rfl := List.mem_singleton.mp hc
  cases hv

theorem Plan.writes_rename {source target : Path} (h : P value) :
    Plan.Writes P ⟨true, [⟨source, none⟩, ⟨target, none⟩, ⟨target, some value⟩]⟩ := by
  intro c hc v hv
  simp only [List.mem_cons, List.not_mem_nil, or_false] at hc
  rcases hc with rfl | rfl | rfl <;> cases hv
  exact h

end

/-! ## Mutations -/

/-- What is added to a number that is missing is a number itself. -/
theorem Action.isNumeric_of_read_inc {op : Operator} {path : Path} {operand amount : Value}
    (h : read op path operand = .ok (.inc amount)) : amount.isNumeric := by
  obtain rfl := operator_of_read h
  obtain ⟨number, hnumber, hamount⟩ := map_ok h
  cases hamount
  exact isNumeric_of_readNumber hnumber

namespace Mutation

/-- A number is incremented by numbers only. -/
def IncrementsByNumber (m : Mutation) : Prop :=
  ∀ amount, m.action = .inc amount → amount.isNumeric

variable {P : Value → Prop} {options : Options} {m : Mutation} {place : Place}

/-- The items that an array operator leaves were there before or are listed. -/
theorem mem_of_itemsEdit {edit : ItemsEdit} (hedit : m.action.itemsEdit? = some edit)
    {items result : List Value} (hresult : edit.result? items = some result) {item : Value}
    (h : item ∈ result) : item ∈ items ∨ item ∈ m.action.written := by
  cases ha : m.action <;> rw [ha] at hedit <;> cases hedit
  case push p => exact Push.mem_result? hresult h
  all_goals cases hresult
  case addToSet values => exact Items.mem_union h
  case pop side => exact .inl ((Items.pop_sublist side items).subset h)
  case pull condition => exact .inl (List.mem_filter.mp h).1
  case pullAll values => exact .inl (List.mem_filter.mp h).1

theorem gives_writes (hP : Kept P) (hinc : m.IncrementsByNumber)
    (hwritten : ∀ v ∈ m.action.written, P v) (hplace : ∀ v, place = .found v → P v) :
    (m.plan options place).Gives (Plan.Writes P) := by
  have listed : ∀ v ∈ m.action.written, Plan.Writes P ⟨true, [⟨m.path, some v⟩]⟩ :=
    fun v hv => Plan.writes_put (hwritten v hv)
  have number : ∀ v : Value, v.isPlain = true → Plan.Writes P ⟨true, [⟨m.path, some v⟩]⟩ :=
    fun v hv => Plan.writes_put (hP.plain v hv)
  have edited : ∀ {edit : ItemsEdit} {changed : Bool} {items result : List Value},
      m.action.itemsEdit? = some edit → edit.result? items = some result →
      (∀ item ∈ items, P item) → Plan.Writes P ⟨changed, [⟨m.path, some (.array result)⟩]⟩ := by
    intro edit changed items result hedit hresult hitems
    refine Plan.writes_put ((hP.array_iff result).mpr fun item hitem => ?_)
    exact (mem_of_itemsEdit hedit hresult hitem).elim (hitems item) (hwritten item)
  have found : ∀ items, place = .found (.array items) → ∀ item ∈ items, P item :=
    fun items hitems => (hP.array_iff items).mp (hplace _ hitems)
  unfold Mutation.plan
  cases ha : m.action
  case set value =>
    have hvalue := listed value (by simp [ha, Action.written])
    exact Planned.gives_setValue (fun _ _ _ => Plan.writes_keep) fun _ => hvalue
  case unset => exact Planned.gives_remove (fun _ => Plan.writes_keep) Plan.writes_remove
  case setOnInsert value =>
    have hvalue := listed value (by simp [ha, Action.written])
    dsimp only
    split
    · exact Planned.gives_setValue (fun _ _ _ => Plan.writes_keep) fun _ => hvalue
    · exact Plan.writes_keep
  case currentDate kind =>
    have hdate := number _ (Edit.isPlain_dateValue kind options)
    exact Planned.gives_setValue (fun _ _ _ => Plan.writes_keep) fun _ => hdate
  case inc amount =>
    have hamount := number amount (Value.isPlain_of_isNumeric (hinc amount ha))
    exact Planned.gives_inc Plan.writes_keep hamount number
  case mul factor => exact Planned.gives_mul Plan.writes_keep number
  case min value | max value =>
    have hvalue := listed value (by simp [ha, Action.written])
    exact Planned.gives_bound (fun _ _ _ _ => Plan.writes_keep) fun _ => hvalue
  case rename target =>
    exact Planned.gives_rename (fun _ => Plan.writes_keep) fun v hv =>
      Plan.writes_rename (hplace v hv)
  case bit steps => exact Planned.gives_bit Plan.writes_keep number
  case addToSet | push =>
    exact Planned.gives_grow (fun _ _ hresult => edited (by rw [ha]; rfl) hresult (by simp))
      fun items _ hitems hresult => edited (by rw [ha]; rfl) hresult (found items hitems)
  case pop | pull | pullAll =>
    exact Planned.gives_shrink Plan.writes_keep fun items _ hitems hresult =>
      edited (by rw [ha]; rfl) hresult (found items hitems)

/-- A mutation keeps what changes keep if the values it lists have it. -/
theorem kept_of_apply (hP : Kept P) (hm : m.RenamesTop) (hinc : m.IncrementsByNumber)
    (hwritten : ∀ v ∈ m.action.written, P v) {doc after : Fields} {changed : Bool}
    (hdoc : P (.document doc)) (h : m.apply options doc = .ok changed after) :
    P (.document after) := by
  rw [apply_eq hm] at h
  obtain ⟨plan, hplan, -, rfl⟩ := Planned.run_eq_ok.mp h
  have hwrites := (gives_writes hP hinc hwritten fun v hv => hP.place hdoc hv).of_ok hplan
  exact hP.changeAll hdoc hwrites

end Mutation

/-! ## Update documents -/

theorem kept_of_applyAll {P : Value → Prop} (hP : Kept P) {options : Options} {ms : List Mutation}
    (hms : ∀ m ∈ ms, m.RenamesTop ∧ m.IncrementsByNumber)
    (hwritten : ∀ m ∈ ms, ∀ v ∈ m.action.written, P v) {doc after : Fields} {changed : Bool}
    (hdoc : P (.document doc)) (h : applyAll options ms doc = .ok changed after) :
    P (.document after) := by
  induction ms generalizing doc changed with
  | nil =>
    cases h
    exact hdoc
  | cons m rest ih =>
    obtain ⟨first, mid, later, hm, hrest, -⟩ := applyAll_cons_ok h
    have hmid := Mutation.kept_of_apply hP (hms m (by simp)).1 (hms m (by simp)).2
      (hwritten m (by simp)) hdoc hm
    exact ih (fun n hn => hms n (by simp [hn])) (fun n hn => hwritten n (by simp [hn])) hmid hrest

namespace UpdateSpec

variable {options : Options} {spec doc after : Fields} {us : UpdateSpec}

theorem incrementsByNumber_of_parse (h : parse spec = .ok us) {m : Mutation}
    (hm : m ∈ us.mutations) : m.IncrementsByNumber := by
  obtain ⟨op, operand, hread⟩ := read_of_parse h hm
  intro amount hamount
  rw [hamount] at hread
  exact Action.isNumeric_of_read_inc hread

theorem kept_of_apply {P : Value → Prop} (hP : Kept P) (h : parse spec = .ok us)
    (hwritten : ∀ m ∈ us.mutations, ∀ v ∈ m.action.written, P v) (hdoc : P (.document doc))
    {changed : Bool} (hrun : us.apply options doc = .ok changed after) : P (.document after) :=
  kept_of_applyAll hP (fun _ hm => ⟨renamesTop_of_parse h hm, incrementsByNumber_of_parse h hm⟩)
    hwritten hdoc hrun

/-- Validating does not change a document. -/
theorem apply_of_applyTo {updated : Updated} (h : us.applyTo options doc = .ok updated) :
    us.apply options doc = .ok updated.modified updated.document := by
  unfold applyTo at h
  split at h
  · rename_i modified after happly
    obtain ⟨-, -, h⟩ := bind_ok h
    cases h
    exact happly
  · cases h
  · cases h

end UpdateSpec

/-! ## What is listed -/

namespace Action

theorem readEach_ok {op : Operator} {path : Path} {value : Value} {items : List Value}
    (h : readEach op path value = .ok items) : value = .array items := by
  unfold readEach at h
  split at h
  · cases h
    rfl
  · cases h

theorem contains_of_readAddToSet {path : Path} {operand : Value} {values : List Value}
    (h : readAddToSet path operand = .ok values) : ∀ v ∈ values, operand.Contains v := by
  intro v hv
  unfold readAddToSet at h
  split at h
  · split at h
    · cases h
      rw [List.mem_singleton.mp hv]
      exact .self _
    · rename_i fields _ each heach
      split at h
      · obtain rfl := readEach_ok h
        exact .field (Fields.get?_mem heach) (.item hv (.self v))
      · cases h
  · cases h
    rw [List.mem_singleton.mp hv]
    exact .self _

/-- A modifier lists items in its value, or leaves those that are listed. -/
theorem contains_of_readModifier {path : Path} {p next : Push} {field : String × Value}
    (h : readModifier path p field = .ok next) :
    ∀ v ∈ next.each, v ∈ p.each ∨ field.2.Contains v := by
  intro v hv
  unfold readModifier at h
  split at h
  · obtain ⟨each, heach, rfl⟩ := map_ok h
    rw [readEach_ok heach]
    exact .inr (.item hv (.self v))
  · obtain ⟨n, -, rfl⟩ := map_ok h
    exact .inl hv
  · obtain ⟨n, -, rfl⟩ := map_ok h
    exact .inl hv
  · obtain ⟨sort, -, rfl⟩ := map_ok h
    exact .inl hv
  · cases h

theorem contains_of_readModifiers {path : Path} {fields : Fields} {p last : Push}
    (h : fields.foldlM (readModifier path) p = .ok last) :
    ∀ v ∈ last.each, v ∈ p.each ∨ ∃ field ∈ fields, field.2.Contains v := by
  induction fields generalizing p with
  | nil =>
    cases h
    exact fun v hv => .inl hv
  | cons field rest ih =>
    rw [List.foldlM_cons] at h
    obtain ⟨next, hnext, h⟩ := bind_ok h
    intro v hv
    rcases ih h v hv with hv | ⟨other, hother, hv⟩
    · exact (contains_of_readModifier hnext v hv).imp_right fun hv => ⟨field, by simp, hv⟩
    · exact .inr ⟨other, by simp [hother], hv⟩

theorem contains_of_readPush {path : Path} {operand : Value} {p : Push}
    (h : readPush path operand = .ok p) : ∀ v ∈ p.each, operand.Contains v := by
  intro v hv
  unfold readPush at h
  split at h
  · split at h
    · rcases contains_of_readModifiers h v hv with hv | ⟨field, hfield, hv⟩
      · cases hv
      · exact .field hfield hv
    · cases h
      rw [List.mem_singleton.mp hv]
      exact .self _
  · cases h
    rw [List.mem_singleton.mp hv]
    exact .self _

/-- What an action lists stands in its operand. -/
theorem contains_of_read {op : Operator} {path : Path} {operand : Value} {action : Action}
    (h : read op path operand = .ok action) : ∀ v ∈ action.written, operand.Contains v := by
  intro v hv
  cases op
  case set | setOnInsert | min | max =>
    cases h
    rw [List.mem_singleton.mp hv]
    exact .self _
  case unset =>
    cases h
    cases hv
  all_goals obtain ⟨read, hread, rfl⟩ := map_ok h
  case addToSet => exact contains_of_readAddToSet hread v hv
  case push => exact contains_of_readPush hread v hv
  all_goals cases hv

end Action

/-! ## Names that are used once -/

namespace UpdateSpec

variable {options : Options} {spec doc after : Fields} {us : UpdateSpec}

/-- What a mutation lists stands in the update document. -/
theorem contains_of_parse (h : parse spec = .ok us) {m : Mutation} (hm : m ∈ us.mutations)
    {v : Value} (hv : v ∈ m.action.written) : (Value.document spec).Contains v := by
  obtain ⟨op, operand, hinside, hread⟩ := read_inside_of_parse h hm
  exact hinside.trans (Action.contains_of_read hread v hv)

/-- An update document without repeated names gives none to a document without them. -/
theorem distinctNames_of_apply (h : parse spec = .ok us)
    (hspec : (Value.document spec).DistinctNames) (hdoc : (Value.document doc).DistinctNames)
    {changed : Bool} (hrun : us.apply options doc = .ok changed after) :
    (Value.document after).DistinctNames :=
  kept_of_apply Value.kept_distinctNames h
    (fun _ hm _ hv => hspec.of_contains (contains_of_parse h hm hv)) hdoc hrun

end UpdateSpec

theorem distinctNames_of_applyEach {options : Options} {doc after : Fields} {updates : List Fields}
    (hupdates : ∀ update ∈ updates, (Value.document update).DistinctNames)
    (hdoc : (Value.document doc).DistinctNames)
    (h : applyEach options doc updates = .ok after) : (Value.document after).DistinctNames := by
  induction updates generalizing doc with
  | nil =>
    cases h
    exact hdoc
  | cons update rest ih =>
    obtain ⟨us, hus, h⟩ := bind_ok h
    obtain ⟨updated, hupdated, h⟩ := bind_ok h
    refine ih (fun u hu => hupdates u (by simp [hu])) ?_ h
    exact UpdateSpec.distinctNames_of_apply (mapError_ok.mp hus) (hupdates update (by simp)) hdoc
      (UpdateSpec.apply_of_applyTo hupdated)

/-- Neither does a list of them. So a name is used once in every document that comes of one
without repeated names. -/
theorem distinctNames_of_applyUpdates {options : Options} {doc after : Fields}
    {updates : List Fields} (hupdates : ∀ update ∈ updates, (Value.document update).DistinctNames)
    (hdoc : (Value.document doc).DistinctNames)
    (h : applyUpdates options doc updates = .ok after) : (Value.document after).DistinctNames := by
  unfold applyUpdates at h
  split at h
  · cases h
  · exact distinctNames_of_applyEach hupdates hdoc h

end DocUpdate
