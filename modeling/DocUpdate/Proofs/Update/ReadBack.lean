import DocUpdate.Proofs.Update.Effect
import DocUpdate.Proofs.Value.Alignment

/-!
# Reading back what was set

A value that was set stands at its path. Where one that is stored alike stood there already it
is left, and that one may have its fields in another order.
-/

namespace DocUpdate.Edit

variable {path : Path} {value : Value} {doc after : Fields} {changed : Bool}

/-- What is read where a value was set is that value if it was written, and one that is stored
alike if nothing changed. It is equal to the value just where its fields stand in the same
order. -/
theorem read_of_setValue (h : setValue path value doc = .ok changed after) :
    ∃ found, after.read path = .ok (some found) ∧
      (changed = true → found = value) ∧
      (changed = false → after = doc ∧ found.same value) ∧
      (value.DistinctNames → (found.equal value ↔ found.aligned value)) := by
  rw [follows_setValue value doc, Planned.run_eq_ok] at h
  obtain ⟨plan, hplan, rfl, rfl⟩ := h
  simp only [Fields.read_eq, Place.read_eq_found_iff]
  rcases Planned.setValue_ok hplan with ⟨current, hplace, hsame, rfl⟩ | ⟨hfault, rfl⟩
  · exact ⟨current, hplace, nofun, fun _ => ⟨rfl, hsame⟩, Value.equal_iff_aligned hsame⟩
  · have hself : value.cmp value = .eq := value.cmp_self
    refine ⟨value, Fields.place_change_self hfault value, fun _ => rfl, nofun, fun _ => ?_⟩
    simp [Value.equal, Value.aligned_of_cmp hself]

/-- A list replaced by one with a number of another type, below a document that is there. -/
theorem read_of_set_item : ∃ path after found,
    Path.parse "a.b" = .ok path ∧
    setValue path (.array [.int64 1]) [("a", .document [("b", .array [.int32 1])])] =
      .ok true after ∧
    after.read path = .ok (some found) ∧ found = .array [.int64 1] ∧
    found.equal (.array [.int64 1]) := by
  have hset : setValue ⟨⟨"a", by decide, by decide⟩, [⟨"b", by decide, by decide⟩]⟩
      (.array [.int64 1]) [("a", .document [("b", .array [.int32 1])])] = .ok true _ := rfl
  obtain ⟨found, hread, hwritten, -, hequal⟩ := read_of_setValue hset
  obtain rfl := hwritten rfl
  refine ⟨_, _, _, rfl, hset, hread, rfl, (hequal ?_).mpr rfl⟩
  refine .array fun item hitem => ?_
  obtain rfl := List.mem_singleton.mp hitem
  exact .plain rfl

/-- A document is not replaced by one with the same fields in another order. -/
theorem set_keeps_field_order : ∃ path found value doc,
    Path.parse "a" = .ok path ∧ setValue path value doc = .ok false doc ∧
    doc.read path = .ok (some found) ∧ value.DistinctNames ∧ found.equal value = false := by
  refine ⟨_, .document [("x", .int32 1), ("y", .int32 2)],
    .document [("y", .int32 2), ("x", .int32 1)],
    [("a", .document [("x", .int32 1), ("y", .int32 2)])], rfl, rfl, rfl, ?_, rfl⟩
  refine .document (by decide) fun field hfield => ?_
  simp only [List.mem_cons, List.not_mem_nil, or_false] at hfield
  rcases hfield with rfl | rfl <;> exact .plain rfl

end DocUpdate.Edit
