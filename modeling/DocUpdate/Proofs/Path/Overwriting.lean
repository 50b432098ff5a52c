import DocUpdate.Proofs.Path.Writing

/-!
# Two ways to overwrite

A value that is there can be changed in place or written again. Both find it where reading does,
and leave the same document, in which nothing was created.
-/

namespace DocUpdate.Fields

/-- Writing where something is found adds no field and no item. -/
theorem outline?_of_found {doc : Fields} {p : Path} {found : Value} {r rest : List Segment}
    {s : Segment} (h : doc.place p = .found found) (hsplit : p.segments = r ++ s :: rest) :
    ∃ outline, doc.outline? r = some outline ∧ outline.add s = outline := by
  obtain ⟨v, part, hv, hpart⟩ := exists_part_of_found h hsplit
  obtain ⟨outline, ho⟩ : ∃ outline, v.outline? = some outline := by
    cases v
    case document => exact ⟨_, rfl⟩
    case array => exact ⟨_, rfl⟩
    all_goals cases hpart
  refine ⟨outline, ?_, Value.outline?_add_of_part hpart ho⟩
  rw [outline?, hv]
  exact ho

/-- A value is changed in place just where one is read, and the change is then the same as writing
what becomes of it. Other paths are read as before, and all containers on the way keep their
fields in order and their length. -/
theorem modify_eq_write (doc : Fields) (p : Path) :
    (∀ f, doc.modify p f =
      (doc.read p).map fun found => found.map fun old => (doc.write p (f old)).2) ∧
    ∀ old, doc.read p = .ok (some old) → ∀ value,
      ∃ after, doc.write p value = (.ok (), after) ∧ doc.replace p value = .ok (some after) ∧
        after.read p = .ok (some value) ∧
        (∀ q, p.Apart q → after.read q = doc.read q) ∧
        ∀ r s rest, p.segments = r ++ s :: rest →
          (doc.outline? r).isSome ∧ after.outline? r = doc.outline? r := by
  have hwrite : ∀ old value, doc.place p = .found old →
      doc.write p value = (.ok (), doc.change ⟨p, some value⟩) := by
    intro old value hfound
    rw [write_eq, hfound]
    rfl
  refine ⟨fun f => ?_, fun old hread value => ?_⟩
  · rw [modify_eq, read_eq]
    cases hp : doc.place p with
    | found old => simp only [hwrite old _ hp]
    | _ => rfl
  · rw [read_eq, Place.read_eq_found_iff] at hread
    have hput : doc.Put p value (doc.change ⟨p, some value⟩) :=
      put_change (by rw [hread]; rfl) value
    refine ⟨_, hwrite old value hread, ?_, hput.at_path, fun q hapart => ?_, ?_⟩
    · rw [replace_eq, hread]
      rfl
    · exact hput.apart q hapart fun t rest => not_pads_of_found hread
    · intro r s rest hsplit
      obtain ⟨outline, ho, hadd⟩ := outline?_of_found hread hsplit
      rw [hput.on_way r s rest hsplit, ho, Option.getD_some, hadd]
      exact ⟨rfl, rfl⟩

/-- The first `0` is a position in an array, the second one the name of a field. -/
theorem overwrite_field_of_item :
    let doc : Fields := [("a", .array [.document [("0", .int32 5), ("1", .null)], .int32 6])]
    let p : Path := ⟨⟨"a", by decide, by decide⟩,
      [⟨"0", by decide, by decide⟩, ⟨"0", by decide, by decide⟩]⟩
    let after : Fields := [("a", .array [.document [("0", .bool true), ("1", .null)], .int32 6])]
    doc.read p = .ok (some (.int32 5)) ∧ doc.write p (.bool true) = (.ok (), after) ∧
      doc.replace p (.bool true) = .ok (some after) ∧
      after.outline? [⟨"a", by decide, by decide⟩] = some (.items 2) := by
  intro doc p after
  obtain ⟨written, hwrite, hreplace, -, -, hway⟩ :=
    (modify_eq_write doc p).2 (.int32 5) rfl (.bool true)
  obtain rfl : written = after := (congrArg Prod.snd hwrite).symm
  exact ⟨rfl, hwrite, hreplace, (hway [⟨"a", by decide, by decide⟩] _ _ rfl).2⟩

end DocUpdate.Fields
