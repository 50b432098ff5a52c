import DocUpdate.Proofs.Value.Keys
import DocUpdate.Proofs.Value.Kept
import DocUpdate.Validity

/-!
# Names inside a value

A document is valid when every name in it can be stored. The segments of a path can be, and so
a change brings in no bad name unless it writes one.
-/

namespace DocUpdate

/-- A field can have this name: it is not empty, and only that of a field of a reference starts
with a dollar sign. -/
def StorableName (name : String) : Prop :=
  name ≠ "" ∧ (name.toList.head? = some '$' → name ∈ referenceNames)

theorem nameFault?_eq_none_iff {name : String} : nameFault? name = none ↔ StorableName name := by
  unfold nameFault? StorableName
  split
  · rename_i hempty
    simp [hempty]
  · rename_i hempty
    split
    · rename_i hdollar
      simp [hdollar]
    · rename_i hdollar
      simp only [not_and, Classical.not_not] at hdollar
      exact iff_of_true rfl ⟨hempty, hdollar⟩

theorem Segment.storableName (s : Segment) : StorableName s.name := by
  refine ⟨fun hempty => s.ne_empty ?_, fun hdollar => absurd hdollar s.no_dollar⟩
  rw [hempty]
  rfl

namespace Value

/-! ## Values -/

/-- A field of this name stands inside a value, at any depth of documents and arrays. -/
inductive HasName : Value → String → Prop where
  | here {fields : Fields} {field : String × Value} (hfield : field ∈ fields) :
      HasName (document fields) field.1
  | field {fields : Fields} {field : String × Value} {name : String} (hfield : field ∈ fields)
      (h : HasName field.2 name) : HasName (document fields) name
  | item {items : List Value} {item : Value} {name : String} (hitem : item ∈ items)
      (h : HasName item name) : HasName (array items) name

theorem hasName_document {fields : Fields} {name : String} : (document fields).HasName name ↔
    ∃ field ∈ fields, field.1 = name ∨ field.2.HasName name := by
  constructor
  · rintro (hfield | ⟨hfield, h⟩)
    · exact ⟨_, hfield, .inl rfl⟩
    · exact ⟨_, hfield, .inr h⟩
  · rintro ⟨field, hfield, rfl | h⟩
    · exact .here hfield
    · exact .field hfield h

theorem hasName_array {items : List Value} {name : String} : (array items).HasName name ↔
    ∃ item ∈ items, item.HasName name := by
  constructor
  · rintro (_ | _ | ⟨hitem, h⟩)
    exact ⟨_, hitem, h⟩
  · rintro ⟨item, hitem, h⟩
    exact .item hitem h

theorem hasParts_of_isPlain {v : Value} (h : v.isPlain = true) : v.hasParts = false := by
  cases v <;> first | rfl | cases h

theorem not_hasName_of_scalar {v : Value} {name : String} (h : v.hasParts = false) :
    ¬ v.HasName name := by
  rintro (_ | _) <;> cases h

/-- Every name inside a value can be stored. -/
def Storable (v : Value) : Prop := ∀ name, v.HasName name → StorableName name

/-- Some name inside a value cannot be stored. -/
def HasBadName (v : Value) : Prop := ∃ name, v.HasName name ∧ ¬ StorableName name

theorem not_storable_iff {v : Value} : ¬ v.Storable ↔ v.HasBadName := by
  simp only [Storable, HasBadName, Classical.not_forall, exists_prop]

theorem storable_document {fields : Fields} : (document fields).Storable ↔
    ∀ field ∈ fields, StorableName field.1 ∧ field.2.Storable := by
  simp only [Storable, hasName_document]
  constructor
  · exact fun h field hfield =>
      ⟨h _ ⟨field, hfield, .inl rfl⟩, fun name hname => h name ⟨field, hfield, .inr hname⟩⟩
  · rintro h name ⟨field, hfield, rfl | hname⟩
    · exact (h field hfield).1
    · exact (h field hfield).2 name hname

theorem storable_array {items : List Value} :
    (array items).Storable ↔ ∀ item ∈ items, item.Storable := by
  simp only [Storable, hasName_array]
  constructor
  · exact fun h item hitem name hname => h name ⟨item, hitem, hname⟩
  · rintro h name ⟨item, hitem, hname⟩
    exact h item hitem name hname

theorem storable_of_scalar {v : Value} (h : v.hasParts = false) : v.Storable :=
  fun _ hname => absurd hname (not_hasName_of_scalar h)

theorem nameFaultIn?_eq_none_iff {fields : Fields} : nameFaultIn? fields = none ↔
    ∀ field ∈ fields, StorableName field.1 ∧ field.2.nameFault? = none := by
  induction fields with
  | nil => simp [nameFaultIn?]
  | cons field rest ih =>
    rw [List.forall_mem_cons, ← ih, ← nameFault?_eq_none_iff, nameFaultIn?]
    cases DocUpdate.nameFault? field.1 with
    | some fault => simp
    | none => cases field.2.nameFault? <;> simp

theorem nameFaultAmong?_eq_none_iff {items : List Value} : nameFaultAmong? items = none ↔
    ∀ item ∈ items, item.nameFault? = none := by
  induction items with
  | nil => simp [nameFaultAmong?]
  | cons item rest ih =>
    rw [List.forall_mem_cons, ← ih, nameFaultAmong?]
    cases item.nameFault? <;> simp

theorem nameFault?_eq_none_iff {v : Value} : v.nameFault? = none ↔ v.Storable := by
  induction v using Value.induction with
  | document fields ih =>
    rw [nameFault?, nameFaultIn?_eq_none_iff, storable_document]
    exact forall₂_congr fun field hfield => and_congr_right fun _ => ih field hfield
  | array items ih =>
    rw [nameFault?, nameFaultAmong?_eq_none_iff, storable_array]
    exact forall₂_congr ih
  | scope code scope => exact iff_of_true rfl (storable_of_scalar rfl)
  | plain v hv =>
    refine iff_of_true ?_ (storable_of_scalar (hasParts_of_isPlain hv))
    cases v <;> first | rfl | cases hv

/-! ## Changes -/

/-- A change brings in no bad name but with the value it writes. -/
theorem kept_storable : Kept Storable where
  plain v hv := storable_of_scalar (hasParts_of_isPlain hv)
  array_iff _ := storable_array
  created := storable_document.mpr (by simp)
  field _ h field hfield := (storable_document.mp h field hfield).2
  insert fields s v h hv := by
    rw [storable_document]
    intro field hfield
    rcases Fields.mem_insert hfield with rfl | hfield
    · exact ⟨s.storableName, hv⟩
    · exact storable_document.mp h field hfield
  erase fields s h := by
    rw [storable_document]
    exact fun field hfield => storable_document.mp h field
      ((Fields.erase_sublist fields s.name).subset hfield)

end Value

namespace Fields

/-- A document that can be stored. -/
abbrev Storable (doc : Fields) : Prop := (Value.document doc).Storable

/-- Validating looks for a name that cannot be stored. -/
theorem validate_eq_ok_iff {doc : Fields} : validate doc = .ok () ↔ doc.Storable := by
  rw [Storable, ← Value.nameFault?_eq_none_iff, Value.nameFault?, validate]
  cases Value.nameFaultIn? doc <;> simp

end Fields

end DocUpdate
