import DocUpdate.Proofs.Path.Change
import DocUpdate.Proofs.Path.Position

/-!
# What a change leaves alone

Two paths that do not overlap part at some segment, and from there on they never meet again.
So a change at the one leaves the place of the other as it is, unless that place is past the
end of an array, which the change may fill up with nulls.
-/

namespace DocUpdate

/-! ## Paths that part -/

theorem Segment.ext_name {s t : Segment} (h : s.name = t.name) : s = t := by
  cases s; cases t; cases h; rfl

namespace Path

/-- The paths share no place. -/
def Apart (p q : Path) : Prop := p.overlaps q = false

theorem Apart.symm {p q : Path} (h : p.Apart q) : q.Apart p := (overlaps_comm q p).trans h

theorem agree_cons_eq_false {s t : Segment} {ss ts : List Segment} :
    agree (s :: ss) (t :: ts) = false ↔ s ≠ t ∨ agree ss ts = false := by
  simp only [agree, Bool.and_eq_false_iff, beq_eq_false_iff_ne]

theorem exists_cons_of_agree_eq_false {ss ts : List Segment} (h : agree ss ts = false) :
    ∃ s ss' t ts', ss = s :: ss' ∧ ts = t :: ts' := by
  cases ss <;> cases ts <;> simp_all [agree]

end Path

namespace Value

/-! ## One part -/

/-- The walk that ended inside goes on inside a part, also where the part is created. -/
theorem inside_part {s : Segment} {rest : List Segment} {element : String} {v : Value}
    (hin : (v.place element (s :: rest)).Inside) :
    (((v.part s.name).getD (document [])).place s.name rest).Inside := by
  cases hp : v.part s.name with
  | some part => rwa [place_of_part hp] at hin
  | none => cases rest <;> exact nofun

/-- The place behind one part does not depend on another part. -/
theorem place_alter_of_ne {s t : Segment} (hne : s ≠ t) (f : Option Value → Option Value)
    {element : String} {v : Value} {ts : List Segment}
    (hin : (v.place element (t :: ts)).Inside) :
    (v.alter s.name f).place element (t :: ts) = v.place element (t :: ts) := by
  cases v
  case document fields =>
    have hname : s.name ≠ t.name := fun h => hne (Segment.ext_name h)
    have hpart := Fields.get?_alter_of_ne hname fields f
    simp only [alter, place, part_document, hpart, deadEnd]
  case array items =>
    cases hi : arrayIndex? s.name with
    | none => simp only [alter, hi]
    | some i =>
      cases hj : arrayIndex? t.name with
      | none => simp only [alter, place, part_array, deadEnd, hi, hj, Option.bind_none]
      | some j =>
        have hij : i ≠ j := by
          rintro rfl
          exact hne (Segment.ext_name (arrayIndex?_injective hi hj))
        cases hitem : items[j]? with
        | none => simp [place, part_array, deadEnd, hj, hitem] at hin
        | some part =>
          obtain ⟨hlt, -⟩ := List.getElem?_eq_some_iff.mp hitem
          simp only [alter, place, part_array, hi, hj, Option.bind_some,
            getElem?_putItem_of_lt hij hlt, hitem]
  all_goals rfl

/-- Putting the part that `s` names fills an array up with nulls, and `t` names one of these. -/
def Fills (v : Value) (s t : Segment) : Prop :=
  ∃ items i j, v = array items ∧ arrayIndex? s.name = some i ∧ arrayIndex? t.name = some j ∧
    items.length ≤ j ∧ j < i

theorem part_alter_of_fills {v : Value} {s t : Segment} (h : v.Fills s t)
    (f : Option Value → Option Value) : (v.alter s.name f).part t.name = some null := by
  obtain ⟨items, i, j, rfl, hi, hj, hle, hlt⟩ := h
  simp only [alter, part_array, hi, hj, Option.bind_some,
    getElem?_putItem_of_le (Nat.ne_of_gt hlt) hle, if_pos hlt]

/-- All other parts are left alone. -/
theorem part_alter_of_not_fills {v : Value} {s t : Segment} (hne : s ≠ t) (h : ¬ v.Fills s t)
    (f : Option Value → Option Value) : (v.alter s.name f).part t.name = v.part t.name := by
  cases v
  case document fields =>
    exact Fields.get?_alter_of_ne (fun hname => hne (Segment.ext_name hname)) fields f
  case array items =>
    cases hi : arrayIndex? s.name with
    | none => simp only [alter, hi]
    | some i =>
      cases hj : arrayIndex? t.name with
      | none => simp only [alter, part_array, hi, hj, Option.bind_none]
      | some j =>
        have hij : i ≠ j := by
          rintro rfl
          exact hne (Segment.ext_name (arrayIndex?_injective hi hj))
        simp only [alter, part_array, hi, hj, Option.bind_some]
        by_cases hlt : j < items.length
        · exact getElem?_putItem_of_lt hij hlt _
        · have hbehind : ¬ j < i := fun hji =>
            h ⟨items, i, j, rfl, hi, hj, Nat.le_of_not_lt hlt, hji⟩
          rw [getElem?_putItem_of_le hij (Nat.le_of_not_lt hlt), if_neg hbehind,
            List.getElem?_eq_none (Nat.le_of_not_lt hlt)]
  all_goals rfl

/-- The place behind a part depends on that part alone. -/
theorem place_alter_self {s t : Segment} {ts : List Segment} {g : Option Value → Value}
    (h : ∀ part : Option Value, ((part.getD (document [])).place s.name (t :: ts)).Inside →
      (g part).place s.name (t :: ts) = (part.getD (document [])).place s.name (t :: ts))
    {element : String} {v : Value} (hin : (v.place element (s :: t :: ts)).Inside) :
    (v.alter s.name fun part => some (g part)).place element (s :: t :: ts) =
      v.place element (s :: t :: ts) := by
  cases ht : v.takes s.name with
  | false => rw [alter_of_not_takes ht]
  | true =>
    rw [place_of_part (part_alter_self ht g), h _ (inside_part hin)]
    cases hp : v.part s.name with
    | some part => rw [place_of_part hp, Option.getD_some]
    | none =>
      -- The part is created. In an array the walk would have ended past its end.
      rw [place_of_no_part hp] at hin ⊢
      cases v
      case document => rfl
      case array items =>
        obtain ⟨i, hi⟩ := Option.isSome_iff_exists.mp ht
        simp [deadEnd, hi] at hin
      all_goals cases ht

/-! ## Whole paths -/

/-- A change along some segments is not seen along others that part from them. -/
theorem place_alter_changeFrom (new : Option Value) {s t : Segment} {ss ts : List Segment}
    (h : Path.agree (s :: ss) (t :: ts) = false) {element : String} {v : Value}
    (hin : (v.place element (t :: ts)).Inside) :
    (v.alter s.name fun part => changeFrom new part ss).place element (t :: ts) =
      v.place element (t :: ts) := by
  induction ss generalizing s t ts element v with
  | nil =>
    rcases Path.agree_cons_eq_false.mp h with hne | h
    · exact place_alter_of_ne hne _ hin
    · simp [Path.agree] at h
  | cons s' ss ih =>
    by_cases hne : s = t
    · subst hne
      have h' : Path.agree (s' :: ss) ts = false := by simpa [Path.agree_cons_eq_false] using h
      obtain ⟨-, -, t', ts', -, rfl⟩ := Path.exists_cons_of_agree_eq_false h'
      exact place_alter_self (fun part hpart => ih h' hpart) hin
    · exact place_alter_of_ne hne _ hin

/-- What is put at the end of the segments is found there. -/
theorem place_changeFrom_self {value v w : Value} {element : String} {ss : List Segment}
    (h : (v.place element ss).fault? = none) (hw : changeFrom (some value) (some v) ss = some w) :
    w.place element ss = .found value := by
  induction ss generalizing element v w with
  | nil =>
    obtain rfl : value = w := by simpa [changeFrom] using hw
    rfl
  | cons s rest ih =>
    obtain rfl : v.alter s.name (fun part => changeFrom (some value) part rest) = w := by
      simpa [changeFrom] using hw
    obtain ⟨x, hx⟩ := changeFrom_isSome value (v.part s.name) rest
    have hplace : x.place s.name rest = .found value := by
      refine ih (fault?_part h) ?_
      cases rest <;> exact hx
    rw [alter_eq_put, hx, place_of_part (part_alter_self (takes_of_free h) fun _ => x), hplace]

/-- Putting what is found in its place changes nothing. -/
theorem changeFrom_of_found {w v : Value} {element : String} {ss : List Segment}
    (h : v.place element ss = .found w) : changeFrom (some w) (some v) ss = some v := by
  induction ss generalizing element v with
  | nil =>
    obtain rfl : v = w := by simpa using h
    rfl
  | cons s rest ih =>
    obtain ⟨part, hp, hrest⟩ := place_cons_eq_found_iff.mp h
    rw [changeFrom, Option.getD_some, alter_eq_put, hp, ih hrest, alter_of_part hp]

/-- Of two values put at one place the second stays. -/
theorem changeFrom_changeFrom (value : Value) (new old : Option Value) (ss : List Segment) :
    changeFrom new (changeFrom (some value) old ss) ss = changeFrom new old ss := by
  induction ss generalizing old with
  | nil => rfl
  | cons s rest ih =>
    have hf : ∀ part, (changeFrom (some value) part rest).isSome := fun part =>
      Option.isSome_iff_exists.mpr (changeFrom_isSome value part rest)
    simp only [changeFrom, Option.getD_some, alter_alter hf, ih]

end Value

/-! ## Documents -/

namespace Fields

/-- A change leaves the places of all paths apart from its own. -/
theorem place_change_of_apart {c : Change} {q : Path} (h : c.path.Apart q) {doc : Fields}
    (hin : (doc.place q).Inside) : (doc.change c).place q = doc.place q :=
  Value.place_alter_changeFrom c.value h hin

theorem place_changeAll_of_apart {cs : List Change} {q : Path} (h : ∀ c ∈ cs, c.path.Apart q)
    {doc : Fields} (hin : (doc.place q).Inside) : (doc.changeAll cs).place q = doc.place q := by
  induction cs generalizing doc with
  | nil => rfl
  | cons c rest ih =>
    have hc := place_change_of_apart (h c (by simp)) hin
    rw [changeAll_cons, ih (fun d hd => h d (by simp [hd])) (by rwa [hc]), hc]

theorem place_change_self {doc : Fields} {p : Path} (h : (doc.place p).fault? = none)
    (value : Value) : (doc.change ⟨p, some value⟩).place p = .found value :=
  Value.place_changeFrom_self h rfl

theorem change_of_found {doc : Fields} {p : Path} {value : Value}
    (h : doc.place p = .found value) : doc.change ⟨p, some value⟩ = doc := by
  have h := Value.changeFrom_of_found h
  exact Value.document.inj (Option.some.inj h)

theorem change_change (doc : Fields) (p : Path) (value : Value) (new : Option Value) :
    (doc.change ⟨p, some value⟩).change ⟨p, new⟩ = doc.change ⟨p, new⟩ := by
  have h := Value.changeFrom_changeFrom value new (some (.document doc)) p.segments
  exact Value.document.inj (Option.some.inj h)

end Fields

end DocUpdate
