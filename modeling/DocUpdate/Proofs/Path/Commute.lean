import DocUpdate.Proofs.Path.Alike
import DocUpdate.Proofs.Path.Frame

/-!
# Changes in either order

Two changes whose paths are apart can be made in either order, as long as not both of them
lengthen an array. What they create may come in another order of fields.
-/

namespace DocUpdate

/-! ## Two fields -/

namespace Fields

variable {k l : String}

theorem insert_insert_of_ne (hne : k ≠ l) (fields : Fields) (a b : Value) :
    ((fields.insert k a).insert l b).Alike ((fields.insert l b).insert k a) := by
  induction fields with
  | nil =>
    simp only [insert, if_neg hne, if_neg hne.symm]
    exact Value.Alike.swap hne a b []
  | cons field rest ih =>
    obtain ⟨j, v⟩ := field
    by_cases hk : j = k
    · subst hk
      simp only [insert, if_pos, if_neg hne]
      exact Alike.refl _
    · by_cases hl : j = l
      · subst hl
        simp only [insert, if_pos, if_neg hk]
        exact Alike.refl _
      · simp only [insert, if_neg hk, if_neg hl]
        exact Value.Alike.fields (j, v) ih

theorem erase_insert_of_ne (hne : k ≠ l) (fields : Fields) (a : Value) :
    (fields.insert k a).erase l = (fields.erase l).insert k a := by
  induction fields with
  | nil => simp [insert, erase, hne]
  | cons field rest ih =>
    obtain ⟨j, v⟩ := field
    by_cases hk : j = k
    · subst hk
      simp [insert, erase, hne]
    · by_cases hl : j = l
      · subst hl
        simp [insert, erase, hk, ih]
      · simp [insert, erase, hk, hl, ih]

theorem erase_erase_of_ne (hne : k ≠ l) (fields : Fields) :
    (fields.erase k).erase l = (fields.erase l).erase k := by
  induction fields with
  | nil => rfl
  | cons field rest ih =>
    obtain ⟨j, v⟩ := field
    by_cases hk : j = k
    · subst hk
      simp [erase, hne, ih]
    · by_cases hl : j = l
      · subst hl
        simp [erase, hk, ih]
      · simp [erase, hk, hl, ih]

theorem alter_alter_eq (hne : k ≠ l) (fields : Fields) (f g : Option Value → Option Value) :
    (fields.alter k f).alter l g =
      (fields.alter k fun _ => f (fields.get? k)).alter l fun _ => g (fields.get? l) := by
  rw [← get?_alter_of_ne hne fields f]
  rfl

theorem alter_alter_of_ne (hne : k ≠ l) (fields : Fields) (f g : Option Value → Option Value) :
    ((fields.alter k f).alter l g).Alike ((fields.alter l g).alter k f) := by
  rw [alter_alter_eq hne, alter_alter_eq hne.symm]
  generalize f (fields.get? k) = new, g (fields.get? l) = other
  cases new with
  | none =>
    cases other with
    | none =>
      simp only [alter, erase_erase_of_ne hne]
      exact Alike.refl _
    | some b =>
      simp only [alter, erase_insert_of_ne hne.symm]
      exact Alike.refl _
  | some a =>
    cases other with
    | none =>
      simp only [alter, erase_insert_of_ne hne]
      exact Alike.refl _
    | some b => exact insert_insert_of_ne hne fields a b

end Fields

namespace Value

/-! ## Two parts -/

theorem alter_comm_of_ne {s t : Segment} (hne : s ≠ t) (f g : Option Value → Option Value)
    {element : String} {v : Value} {ss : List Segment}
    (hin : (v.place element (s :: ss)).Inside) :
    ((v.alter s.name f).alter t.name g).Alike ((v.alter t.name g).alter s.name f) := by
  cases v
  case document fields =>
    exact Fields.alter_alter_of_ne (fun h => hne (Segment.ext_name h)) fields f g
  case array items =>
    cases hi : arrayIndex? s.name with
    | none =>
      cases hj : arrayIndex? t.name <;>
        simpa only [alter, hi, hj] using .refl _
    | some i =>
      cases hj : arrayIndex? t.name with
      | none => simpa only [alter, hi, hj] using .refl _
      | some j =>
        have hij : i ≠ j := by
          rintro rfl
          exact hne (Segment.ext_name (arrayIndex?_injective hi hj))
        cases hitem : items[i]? with
        | none => simp [place, part_array, deadEnd, hi, hitem] at hin
        | some item =>
          obtain ⟨hlt, -⟩ := List.getElem?_eq_some_iff.mp hitem
          simp only [alter, hi, hj, getElem?_putItem_of_lt hij.symm hlt, putItem_of_lt hlt,
            List.getElem?_set_ne hij]
          rw [← putItem_of_lt hlt, putItem_comm hij hlt]
          exact .refl _
  all_goals exact .refl _

/-! ## Whole paths -/

theorem alter_changeFrom_comm (new other : Option Value) {s t : Segment} {ss ts : List Segment}
    (h : Path.agree (s :: ss) (t :: ts) = false) {element : String} {v : Value}
    (hin : (v.place element (s :: ss)).Inside) :
    ((v.alter s.name fun part => changeFrom new part ss).alter t.name
        fun part => changeFrom other part ts).Alike
      ((v.alter t.name fun part => changeFrom other part ts).alter s.name
        fun part => changeFrom new part ss) := by
  induction ss generalizing s t ts element v with
  | nil =>
    rcases Path.agree_cons_eq_false.mp h with hne | h
    · exact alter_comm_of_ne hne _ _ hin
    · simp [Path.agree] at h
  | cons s' ss ih =>
    by_cases hne : s = t
    · subst hne
      have h' : Path.agree (s' :: ss) ts = false := by simpa [Path.agree_cons_eq_false] using h
      obtain ⟨-, -, t', ts', -, rfl⟩ := Path.exists_cons_of_agree_eq_false h'
      -- Both changes go on inside the same part, so each order changes that part once.
      rw [alter_alter fun _ => rfl, alter_alter fun _ => rfl, alter_eq_put,
        alter_eq_put v s.name fun part => changeFrom new _ _]
      exact PartsAlike.put (.some (ih h' (inside_part hin))) v s.name
    · exact alter_comm_of_ne hne _ _ hin

end Value

/-! ## Documents -/

namespace Fields

theorem change_comm {c d : Change} (h : c.path.Apart d.path) {doc : Fields}
    (hin : (doc.place c.path).Inside) :
    ((doc.change c).change d).Alike ((doc.change d).change c) :=
  Value.alter_changeFrom_comm c.value d.value h hin

/-- Each change, when its turn comes, stays inside the arrays it leads through. -/
def Fits (doc : Fields) : List Change → Prop
  | [] => True
  | c :: rest => (doc.place c.path).Inside ∧ (doc.change c).Fits rest

theorem change_changeAll_comm {c : Change} {ds : List Change}
    (h : ∀ d ∈ ds, c.path.Apart d.path) {doc : Fields} (hin : (doc.place c.path).Inside) :
    ((doc.change c).changeAll ds).Alike ((doc.changeAll ds).change c) := by
  induction ds generalizing doc with
  | nil => exact Alike.refl _
  | cons d rest ih =>
    have hd : c.path.Apart d.path := h d (by simp)
    have hin' : ((doc.change d).place c.path).Inside := by
      rwa [place_change_of_apart hd.symm hin]
    exact ((change_comm hd hin).changeAll rest).trans (ih (fun e he => h e (by simp [he])) hin')

/-- Two lists of changes can be made in either order. -/
theorem changeAll_comm {cs ds : List Change} (h : ∀ c ∈ cs, ∀ d ∈ ds, c.path.Apart d.path)
    {doc : Fields} (hfits : doc.Fits cs) :
    ((doc.changeAll cs).changeAll ds).Alike ((doc.changeAll ds).changeAll cs) := by
  induction cs generalizing doc with
  | nil => exact Alike.refl _
  | cons c rest ih =>
    have hc := change_changeAll_comm (h c (by simp)) hfits.1
    exact (ih (fun e he => h e (by simp [he])) hfits.2).trans (hc.changeAll rest)

end Fields

end DocUpdate
