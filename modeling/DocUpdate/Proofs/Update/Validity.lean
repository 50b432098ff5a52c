import DocUpdate.Proofs.Update.Agreement
import DocUpdate.Proofs.Update.Kinds
import DocUpdate.Proofs.Update.Written
import DocUpdate.Proofs.Value.Names

/-!
# Updates keep documents valid

A name comes into a document with the segments of a path or inside a value that an update lists.
The segments can be stored, so an update whose values can be stored leaves a valid document
valid.
-/

namespace DocUpdate

/-- Every value that an update lists can be stored. -/
def UpdateSpec.WritesStorable (us : UpdateSpec) : Prop :=
  ∀ m ∈ us.mutations, ∀ v ∈ m.action.written, v.Storable

/-! ## Update documents -/

namespace UpdateSpec

variable {options : Options} {spec doc after : Fields} {us : UpdateSpec}

theorem storable_of_apply (h : parse spec = .ok us) (hus : us.WritesStorable) (hdoc : doc.Storable)
    {changed : Bool} (hrun : us.apply options doc = .ok changed after) : after.Storable :=
  kept_of_apply Value.kept_storable h hus hdoc hrun

theorem storable_of_applyTo (h : parse spec = .ok us) (hus : us.WritesStorable)
    (hdoc : doc.Storable) {updated : Updated} (hrun : us.applyTo options doc = .ok updated) :
    updated.document.Storable := storable_of_apply h hus hdoc (apply_of_applyTo hrun)

/-- A document that stays valid is not blamed. -/
theorem applyTo_error_kind (h : parse spec = .ok us) (hus : us.WritesStorable)
    (hdoc : doc.Storable) {e : UpdateError} (hrun : us.applyTo options doc = .error (.failed e)) :
    e.kind ∈ applyKinds := by
  cases halts_of_applyTo hrun with
  | failed hfail => exact apply_error_kind h hfail
  | refused happly hinvalid =>
    rw [Fields.validate_eq_ok_iff.mpr (storable_of_apply h hus hdoc happly)] at hinvalid
    cases hinvalid

end UpdateSpec

/-! ## Lists of updates -/

theorem applyEach_error_kind {options : Options} {doc : Fields} {updates : List Fields}
    (hwritten : ∀ update ∈ updates, ∀ us, UpdateSpec.parse update = .ok us → us.WritesStorable)
    (hdoc : doc.Storable) {e : UpdateError}
    (h : applyEach options doc updates = .error (.failed e)) : e.kind ≠ .invalidDocument := by
  induction updates generalizing doc with
  | nil => cases h
  | cons update rest ih =>
    rw [applyEach] at h
    rcases bind_error h with hread | ⟨us, hus, h⟩
    · intro hkind
      obtain ⟨fault, hread, ⟨⟩⟩ := mapError_error.mp hread
      have hmem := UpdateSpec.parse_failsWith update e hread
      rw [hkind] at hmem
      revert hmem
      decide
    have hus := mapError_ok.mp hus
    have hstorable := hwritten update (by simp) us hus
    rcases bind_error h with hfirst | ⟨updated, hfirst, h⟩
    · intro hkind
      have hmem := UpdateSpec.applyTo_error_kind hus hstorable hdoc hfirst
      rw [hkind] at hmem
      revert hmem
      decide
    · exact ih (fun u hu => hwritten u (by simp [hu]))
        (UpdateSpec.storable_of_applyTo hus hstorable hdoc hfirst) h

/-- An update document whose listed values can be stored leaves a valid document valid. So a
list of updates is refused for an invalid document only if there is a bad name in the document
or in a value that one of them lists. -/
theorem updates_keep_valid (options : Options) (doc : Fields) :
    (∀ spec us, UpdateSpec.parse spec = .ok us → us.WritesStorable → validate doc = .ok () →
      ∀ changed after, us.apply options doc = .ok changed after → validate after = .ok ()) ∧
    (∀ updates e, applyUpdates options doc updates = .error (.failed e) →
      e.kind = .invalidDocument →
      (Value.document doc).HasBadName ∨ ∃ update ∈ updates, ∃ us,
        UpdateSpec.parse update = .ok us ∧ ∃ m ∈ us.mutations, ∃ v ∈ m.action.written,
          v.HasBadName) := by
  constructor
  · intro spec us h hus hdoc changed after hrun
    rw [Fields.validate_eq_ok_iff] at hdoc ⊢
    exact UpdateSpec.storable_of_apply h hus hdoc hrun
  · intro updates e h hkind
    by_contra hnone
    simp only [← Value.not_storable_iff, not_or, Classical.not_not, not_exists, not_and] at hnone
    obtain ⟨hdoc, hwritten⟩ := hnone
    unfold applyUpdates at h
    split at h
    · cases h
      cases hkind
    · exact applyEach_error_kind hwritten hdoc h hkind

/-- A reference to another document is written into a new document. A name that starts with a
dollar sign otherwise is refused, and stands in what the update lists. -/
theorem reference_valid_and_dollar_refused :
    (∃ us, UpdateSpec.parse [("$set", .document [("a.b", .document [("$ref", .string "c")])])] =
        .ok us ∧ us.WritesStorable ∧
      us.apply ⟨false, 0⟩ [] =
        .ok true [("a", .document [("b", .document [("$ref", .string "c")])])] ∧
      validate [("a", .document [("b", .document [("$ref", .string "c")])])] = .ok ()) ∧
    (∃ e, applyUpdates ⟨false, 0⟩ [] [[("$set", .document [("a", .document [("$b", .null)])])]] =
        .error (.failed e) ∧ e.kind = .invalidDocument ∧
      ((Value.document []).HasBadName ∨
        ∃ update ∈ [[("$set", Value.document [("a", .document [("$b", .null)])])]], ∃ us,
          UpdateSpec.parse update = .ok us ∧ ∃ m ∈ us.mutations, ∃ v ∈ m.action.written,
            v.HasBadName)) := by
  constructor
  · have h : UpdateSpec.parse
        [("$set", .document [("a.b", .document [("$ref", .string "c")])])] = .ok _ := rfl
    refine ⟨_, h, ?hus, rfl, (updates_keep_valid ⟨false, 0⟩ []).1 _ _ h ?hus rfl _ _ rfl⟩
    intro m hm v hv
    obtain rfl := List.mem_singleton.mp hm
    obtain rfl := List.mem_singleton.mp hv
    exact Value.nameFault?_eq_none_iff.mp rfl
  · have h : applyUpdates ⟨false, 0⟩ []
        [[("$set", .document [("a", .document [("$b", .null)])])]] = .error (.failed _) := rfl
    exact ⟨_, h, rfl, (updates_keep_valid ⟨false, 0⟩ []).2 _ _ h rfl⟩

end DocUpdate
