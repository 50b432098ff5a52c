import DocUpdate.Proofs.Path.Overwriting
import DocUpdate.Update.Edit

/-!
# What removing does

Removing takes away what is read at a path and nothing else. The document it stood in closes
the gap, the array it stood in keeps its length and has a null there.
-/

namespace DocUpdate

theorem Path.exists_last (p : Path) : ∃ r s, p.segments = r ++ [s] := by
  rcases List.eq_nil_or_concat p.segments with hnil | ⟨r, s, hsplit⟩
  · cases hnil
  · exact ⟨r, s, hsplit.trans List.concat_eq_append⟩

namespace Fields

theorem erase_eq_filter (fields : Fields) (key : String) :
    fields.erase key = fields.filter fun field => field.1 ≠ key := by
  induction fields with
  | nil => rfl
  | cons field rest ih =>
    obtain ⟨k, v⟩ := field
    by_cases hk : k = key <;> simp [erase, hk, ih]

/-- What the container of a removed value becomes, and what is read at the path then. -/
inductive Emptied (doc : Fields) (p : Path) (after : Fields) : Prop where
  | field {r : List Segment} {s : Segment} {fields : Fields} (split : p.segments = r ++ [s])
      (before : doc.reached r = some (.document fields))
      (left : after.reached r = some (.document (fields.filter fun field => field.1 ≠ s.name)))
      (missing : after.read p = .ok none)
  | item {r : List Segment} {s : Segment} {items : List Value} {i : Nat}
      (split : p.segments = r ++ [s]) (before : doc.reached r = some (.array items))
      (position : arrayIndex? s.name = some i)
      (left : after.reached r = some (.array (items.set i .null)))
      (null : after.read p = .ok (some .null))

variable {doc : Fields} {p : Path} {found : Value}

/-- A removed field is missing, a removed item is a null. -/
theorem emptied_change (h : doc.place p = .found found) : doc.Emptied p (doc.change ⟨p, none⟩) := by
  have hfree : (doc.place p).fault? = none := by rw [h]; rfl
  obtain ⟨r, s, hsplit⟩ := p.exists_last
  obtain ⟨v, part, hv, hpart⟩ := exists_part_of_found h hsplit
  have hreached := reached_change (c := ⟨p, none⟩) hfree hsplit
  have hread := read_change_of_start (c := ⟨p, none⟩) hfree hsplit hsplit ""
  rw [hv, Option.getD_some] at hreached hread
  cases v
  case document fields =>
    refine .field hsplit hv ?_ (hread.trans ?_)
    · rw [hreached, ← erase_eq_filter]
      rfl
    · have hmissing : (Value.document (erase fields s.name)).part s.name = none :=
        get?_erase_self fields s.name
      exact congrArg Place.read (Value.place_of_no_part hmissing _ [])
  case array items =>
    obtain ⟨i, hi, hlt, -⟩ := Value.exists_position_of_part hpart
    have halter : ((Value.array items).alter s.name fun part => Value.changeFrom none part []) =
        .array (items.set i .null) := by
      simp only [Value.alter, hi, Value.changeFrom, Option.getD_none, Value.putItem_of_lt hlt]
    rw [halter] at hreached hread
    refine .item hsplit hv hi hreached (hread.trans ?_)
    have hnull : (Value.array (items.set i .null)).part s.name = some .null := by
      rw [Value.part_array, hi, Option.bind_some, List.getElem?_set_self hlt]
    exact congrArg Place.read (Value.place_of_part hnull _ [])
  all_goals cases hpart

/-- Containers further up keep their fields in order and their length. -/
theorem outline?_change_none {r rest : List Segment} {s t : Segment}
    (h : doc.place p = .found found) (hsplit : p.segments = r ++ s :: t :: rest) :
    (doc.change ⟨p, none⟩).outline? r = doc.outline? r := by
  have hfree : (doc.place p).fault? = none := by rw [h]; rfl
  obtain ⟨outline, ho, hadd⟩ := outline?_of_found h hsplit
  rw [outline?_change (c := ⟨p, none⟩) hfree hsplit fun _ => ⟨_, rfl⟩, ho, Option.getD_some, hadd]

end Fields

namespace Edit

/-- Removing never fails. It tells that it removed something just where something is read, and
otherwise leaves the document as it is. All paths apart from its own are read as before. -/
theorem remove_removes (doc : Fields) (p : Path) : ∃ removed after,
    remove p doc = .ok removed after ∧
    (removed = true ↔ ∃ v, doc.read p = .ok (some v)) ∧
    (removed = false → after = doc) ∧
    (removed = true → doc.Emptied p after ∧
      ∀ r s t rest, p.segments = r ++ s :: t :: rest → after.outline? r = doc.outline? r) ∧
    ∀ q, p.Apart q → after.read q = doc.read q := by
  simp only [remove, Fields.remove?_eq, Fields.read_eq, Place.read_eq_found_iff]
  cases hp : (doc.place p).value? with
  | none =>
    refine ⟨false, doc, rfl, iff_of_false nofun ?_, fun _ => rfl, nofun, fun _ _ => rfl⟩
    rintro ⟨v, hv⟩
    rw [hv] at hp
    cases hp
  | some v =>
    have hfound := Place.value?_eq_some_iff.mp hp
    refine ⟨true, doc.change ⟨p, none⟩, rfl, iff_of_true rfl ⟨v, hfound⟩, nofun, fun _ => ⟨?_, ?_⟩,
      fun q hapart => ?_⟩
    · exact Fields.emptied_change hfound
    · exact fun r s t rest hsplit => Fields.outline?_change_none hfound hsplit
    · rw [← Fields.read_eq, ← Fields.read_eq]
      exact Fields.read_change_of_apart (c := ⟨p, none⟩) (by rw [hfound]; rfl) hapart
        fun t rest => Fields.not_pads_of_found hfound

/-- An item becomes a null, and the field beside its array is read as before. -/
theorem remove_item_of_field :
    let doc : Fields := [("a", .document [("x", .int32 1), ("y", .array [.int32 5, .int32 6])])]
    let p : Path := ⟨⟨"a", by decide, by decide⟩,
      [⟨"y", by decide, by decide⟩, ⟨"0", by decide, by decide⟩]⟩
    let q : Path := ⟨⟨"a", by decide, by decide⟩, [⟨"x", by decide, by decide⟩]⟩
    let after : Fields := [("a", .document [("x", .int32 1), ("y", .array [.null, .int32 6])])]
    doc.read p = .ok (some (.int32 5)) ∧ remove p doc = .ok true after ∧ doc.Emptied p after ∧
      p.Apart q ∧ after.read q = doc.read q := by
  intro doc p q after
  obtain ⟨removed, left, hrun, hiff, -, hgone, hapart⟩ := remove_removes doc p
  have hread : doc.read p = .ok (some (.int32 5)) := rfl
  obtain rfl : removed = true := hiff.mpr ⟨_, hread⟩
  obtain rfl : left = after := by
    have hleft : remove p doc = .ok true after := rfl
    rw [hrun] at hleft
    cases hleft
    rfl
  have hpq : p.Apart q := rfl
  exact ⟨hread, hrun, (hgone rfl).1, hpq, hapart q hpq⟩

end Edit

end DocUpdate
