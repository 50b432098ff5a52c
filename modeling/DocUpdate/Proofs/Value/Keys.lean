import DocUpdate.Value.Basic

/-!
# The names of fields

A field that is put in a document stands where it stood or behind the others. One that is
removed leaves the others in order.
-/

namespace DocUpdate

/-- Adds a key behind the others if it is not there. -/
def addKey (keys : List String) (k : String) : List String :=
  if k ∈ keys then keys else keys ++ [k]

section

variable {keys : List String} {k : String}

theorem addKey_of_mem (h : k ∈ keys) : addKey keys k = keys := if_pos h

theorem addKey_of_notMem (h : k ∉ keys) : addKey keys k = keys ++ [k] := if_neg h

theorem nodup_addKey (h : keys.Nodup) : (addKey keys k).Nodup := by
  by_cases hk : k ∈ keys
  · rwa [addKey_of_mem hk]
  · rw [addKey_of_notMem hk]
    refine List.nodup_append.mpr ⟨h, by simp, ?_⟩
    rintro l hl _ hk' rfl
    obtain rfl := List.mem_singleton.mp hk'
    exact hk hl

theorem mem_addKey {l : String} : l ∈ addKey keys k ↔ l ∈ keys ∨ l = k := by
  by_cases h : k ∈ keys
  · rw [addKey_of_mem h]
    exact ⟨.inl, fun hl => hl.elim id fun heq => heq ▸ h⟩
  · rw [addKey_of_notMem h, List.mem_append, List.mem_singleton]

end

namespace Fields

variable {fields : Fields} {key : String}

theorem get?_mem {v : Value} (h : fields.get? key = some v) : (key, v) ∈ fields := by
  induction fields with
  | nil => cases h
  | cons first rest ih =>
    rw [get?_cons] at h
    split at h
    · rename_i hkey
      cases h
      rw [← hkey]
      exact List.mem_cons_self
    · exact List.mem_cons_of_mem _ (ih h)

theorem mem_insert {value : Value} {field : String × Value}
    (h : field ∈ fields.insert key value) : field = (key, value) ∨ field ∈ fields := by
  induction fields with
  | nil => exact .inl (List.mem_singleton.mp h)
  | cons first rest ih =>
    rw [insert] at h
    split at h
    · rename_i hkey
      rcases List.mem_cons.mp h with rfl | h
      · exact .inl (congrArg (·, value) hkey)
      · exact .inr (List.mem_cons_of_mem _ h)
    · rcases List.mem_cons.mp h with rfl | h
      · exact .inr List.mem_cons_self
      · exact (ih h).imp_right (List.mem_cons_of_mem _)

theorem erase_sublist (fields : Fields) (key : String) : (fields.erase key).Sublist fields := by
  induction fields with
  | nil => exact .slnil
  | cons first rest ih =>
    rw [erase]
    split
    · exact ih.cons first
    · exact ih.cons_cons first

/-! ## Lists of names -/

theorem keys_insert (fields : Fields) (key : String) (v : Value) :
    (fields.insert key v).keys = addKey fields.keys key := by
  induction fields with
  | nil => rfl
  | cons field rest ih =>
    obtain ⟨k, w⟩ := field
    have hcons : keys ((k, w) :: rest) = k :: keys rest := rfl
    by_cases h : k = key
    · rw [insert, if_pos h, hcons, addKey_of_mem (by simp [h])]
      rfl
    · rw [insert, if_neg h]
      show k :: (insert rest key v).keys = _
      rw [ih, hcons, addKey, addKey]
      have hmem : key ∈ k :: keys rest ↔ key ∈ keys rest := by
        rw [List.mem_cons, or_iff_right (Ne.symm h)]
      simp only [hmem]
      split <;> rfl

theorem keys_erase (fields : Fields) (key : String) :
    (fields.erase key).keys = fields.keys.removeAll [key] := by
  induction fields with
  | nil => rfl
  | cons field rest ih =>
    obtain ⟨k, w⟩ := field
    have hcons : keys ((k, w) :: rest) = k :: keys rest := rfl
    by_cases h : k = key
    · rw [erase, if_pos h, hcons, List.cons_removeAll, if_neg (by simpa using h), ih]
    · rw [erase, if_neg h, hcons, List.cons_removeAll, if_pos (by simpa using h), ← ih]
      rfl

end Fields

end DocUpdate
