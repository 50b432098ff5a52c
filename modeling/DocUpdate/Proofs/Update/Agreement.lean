import DocUpdate.Pipeline
import DocUpdate.Proofs.Update.Parsed

/-!
# Reading up front and reading in turn

A pipeline reads all update documents before it applies the first, and `applyUpdates` reads
each when its turn comes. Where everything can be read they do the same. Where something
cannot, the pipeline stops there, and `applyUpdates` stops there unless an update before it
fails or stops while sorting.
-/

namespace DocUpdate

variable {options : Options} {doc after : Fields} {updates : List Fields} {e : UpdateError}
  {halt : Halt}

/-! ## Update documents that can be read -/

/-- Applying an update document fails or stops while sorting, or the document it leaves is
refused. -/
inductive UpdateSpec.Halts (us : UpdateSpec) (options : Options) (doc : Fields) : Halt → Prop where
  | failed {e : UpdateError} {left : Fields} (run : us.apply options doc = .error e left) :
    Halts us options doc (.failed e)
  | unordered (run : us.apply options doc = .unordered) : Halts us options doc .unordered
  | refused {e : UpdateError} {changed : Bool} {after : Fields}
      (run : us.apply options doc = .ok changed after) (invalid : validate after = .error e) :
    Halts us options doc (.failed e)

theorem UpdateSpec.halts_of_applyTo {us : UpdateSpec}
    (h : us.applyTo options doc = .error halt) : us.Halts options doc halt := by
  unfold applyTo at h
  split at h
  · rename_i changed after hrun
    rcases bind_error h with h | ⟨-, -, h⟩
    · obtain ⟨e, hvalid, rfl⟩ := mapError_error.mp h
      exact .refused hrun hvalid
    · cases h
  · rename_i fault left hrun
    cases h
    exact .failed hrun
  · rename_i hrun
    cases h
    exact .unordered hrun

namespace Pipeline

theorem parse_ok {p : Pipeline} (h : parse updates = .ok p) :
    updates.isEmpty = false ∧ updates.mapM UpdateSpec.parse = .ok p.specs := by
  unfold parse at h
  split at h
  · cases h
  · rename_i hne
    obtain ⟨specs, hspecs, rfl⟩ := map_ok h
    exact ⟨by simpa using hne, hspecs⟩

end Pipeline

end DocUpdate
