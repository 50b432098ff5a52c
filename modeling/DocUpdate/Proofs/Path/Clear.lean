import DocUpdate.Proofs.Path.Frame

/-!
# Places where there is nothing left to remove

Removing a field leaves nothing behind, removing an item leaves a null. Either way removing
again changes nothing. That stays so while values are put elsewhere: a longer array has
nulls where it had nothing.
-/

namespace DocUpdate

namespace Value

/-- Removing what the segments lead to would change nothing. -/
def Clear (v : Value) (s : Segment) : List Segment → Prop
  | [] => v.part s.name = none ∨ v.part s.name = some null ∧ ∃ items, v = array items
  | t :: rest => ∀ part, v.part s.name = some part → part.Clear t rest

theorem clear_of_no_part {v : Value} {s : Segment} (h : v.part s.name = none)
    (rest : List Segment) : v.Clear s rest := by
  cases rest with
  | nil => exact .inl h
  | cons t rest =>
    intro part hpart
    rw [h] at hpart
    cases hpart

theorem no_part_of_not_takes {v : Value} {name : String} (h : v.takes name = false) :
    v.part name = none := by
  cases v
  case document => cases h
  case array items =>
    have hi : arrayIndex? name = none := by simpa [takes] using h
    rw [part_array, hi, Option.bind_none]
  all_goals rfl

/-- Where nothing is found there is nothing to remove. -/
theorem clear_of_missing {element : String} {v : Value} {s : Segment} {rest : List Segment}
    (h : (v.place element (s :: rest)).value? = none) : v.Clear s rest := by
  induction rest generalizing element v s with
  | nil =>
    cases hp : v.part s.name with
    | none => exact clear_of_no_part hp []
    | some part =>
      rw [place_of_part hp] at h
      cases h
  | cons t rest ih =>
    intro part hp
    rw [place_of_part hp] at h
    exact ih h

/-- What was removed is gone. -/
theorem clear_alter_none (v : Value) (s : Segment) (rest : List Segment) :
    (v.alter s.name fun part => changeFrom none part rest).Clear s rest := by
  induction rest generalizing v s with
  | nil =>
    cases v
    case document fields =>
      have hpart := Fields.get?_alter_self fields s.name fun _ => none
      exact .inl hpart
    case array items =>
      cases hi : arrayIndex? s.name with
      | none => exact clear_of_no_part (by simp [alter, part_array, hi]) []
      | some i => exact .inr (by simp [alter, part_array, changeFrom, hi])
    all_goals exact .inl rfl
  | cons t rest ih =>
    cases htakes : v.takes s.name with
    | false =>
      rw [alter_of_not_takes htakes]
      exact clear_of_no_part (no_part_of_not_takes htakes) _
    | true =>
      intro part hpart
      simp only [changeFrom] at hpart
      rw [part_alter_self htakes] at hpart
      cases hpart
      exact ih _ t

/-- Another part is left alone, unless an array that ended before it is filled up. -/
theorem part_alter_of_ne {s t : Segment} (hne : s ≠ t) (v : Value)
    (f : Option Value → Option Value) :
    (v.alter t.name f).part s.name = v.part s.name ∨
      (v.alter t.name f).part s.name = some null ∧ ∃ items, v.alter t.name f = array items := by
  by_cases hfills : v.Fills t s
  · have hnull := part_alter_of_fills hfills f
    obtain ⟨items, i, j, rfl, hi, -⟩ := hfills
    exact .inr ⟨hnull, by simp [alter, hi]⟩
  · exact .inl (part_alter_of_not_fills hne.symm hfills f)

theorem isArray_alter {v : Value} (h : ∃ items, v = array items) (name : String)
    (f : Option Value → Option Value) : ∃ items, v.alter name f = array items := by
  obtain ⟨items, rfl⟩ := h
  cases hi : arrayIndex? name <;> simp [alter, hi]

theorem Clear.alter_of_ne {s t : Segment} (hne : s ≠ t) {v : Value} {rest : List Segment}
    (h : v.Clear s rest) (f : Option Value → Option Value) : (v.alter t.name f).Clear s rest := by
  rcases part_alter_of_ne hne v f with hpart | ⟨hnull, harray⟩
  · cases rest with
    | nil =>
      rw [Clear, hpart]
      exact h.imp_right fun ⟨hnull, harray⟩ => ⟨hnull, isArray_alter harray _ _⟩
    | cons t' rest =>
      rw [Clear, hpart]
      exact h
  · cases rest with
    | nil => exact .inr ⟨hnull, harray⟩
    | cons t' rest =>
      intro part hp
      rw [hnull] at hp
      cases hp
      exact clear_of_no_part rfl rest

/-- It stays clear when something is put or removed at segments that part from these. -/
theorem Clear.alter_changeFrom {s t : Segment} {ss ts : List Segment} {v : Value}
    (h : v.Clear s ss) (hapart : Path.agree (t :: ts) (s :: ss) = false) (new : Option Value) :
    (v.alter t.name fun part => changeFrom new part ts).Clear s ss := by
  induction ts generalizing s t ss v with
  | nil =>
    rcases Path.agree_cons_eq_false.mp hapart with hne | hagree
    · exact h.alter_of_ne hne.symm _
    · simp [Path.agree] at hagree
  | cons t' ts ih =>
    by_cases hne : s = t
    · subst hne
      have hrest : Path.agree (t' :: ts) ss = false := by
        simpa [Path.agree_cons_eq_false] using hapart
      obtain ⟨-, -, s', ss', -, rfl⟩ := Path.exists_cons_of_agree_eq_false hrest
      cases htakes : v.takes s.name with
      | false =>
        rw [alter_of_not_takes htakes]
        exact h
      | true =>
        intro part hpart
        simp only [changeFrom] at hpart
        rw [part_alter_self htakes] at hpart
        cases hpart
        refine ih ?_ hrest
        cases hp : v.part s.name with
        | some old => exact h old hp
        | none => exact clear_of_no_part rfl ss'
    · exact h.alter_of_ne hne _

/-- Removing what is found changes nothing then. -/
theorem Clear.changeFrom_none {element : String} {v w : Value} {s : Segment}
    {rest : List Segment} (h : v.Clear s rest) (hw : v.place element (s :: rest) = .found w) :
    changeFrom none (some v) (s :: rest) = some v := by
  induction rest generalizing element v s with
  | nil =>
    rcases h with hnone | ⟨hnull, items, rfl⟩
    · obtain ⟨part, hp, -⟩ := place_cons_eq_found_iff.mp hw
      rw [hnone] at hp
      cases hp
    · obtain ⟨i, hi, hitem⟩ := Option.bind_eq_some_iff.mp hnull
      simp [changeFrom, alter, hi, putItem_of_getElem? hitem]
  | cons t rest ih =>
    obtain ⟨part, hp, hrest⟩ := place_cons_eq_found_iff.mp hw
    rw [changeFrom, Option.getD_some, alter_eq_put, hp, ih (h part hp) hrest, alter_of_part hp]

end Value

namespace Fields

/-- Removing at the path would change nothing. -/
def Clear (doc : Fields) (p : Path) : Prop := (Value.document doc).Clear p.head p.tail

theorem clear_of_missing {doc : Fields} {p : Path} (h : (doc.place p).value? = none) :
    doc.Clear p := Value.clear_of_missing h

theorem clear_change_none (doc : Fields) (p : Path) : (doc.change ⟨p, none⟩).Clear p :=
  Value.clear_alter_none (.document doc) p.head p.tail

theorem Clear.change {doc : Fields} {c : Change} {p : Path} (h : doc.Clear p)
    (hapart : c.path.Apart p) : (doc.change c).Clear p :=
  Value.Clear.alter_changeFrom h hapart c.value

theorem Clear.changeAll {doc : Fields} {cs : List Change} {p : Path} (h : doc.Clear p)
    (hapart : ∀ c ∈ cs, c.path.Apart p) : (doc.changeAll cs).Clear p := by
  induction cs generalizing doc with
  | nil => exact h
  | cons c rest ih => exact ih (h.change (hapart c (by simp))) fun d hd => hapart d (by simp [hd])

theorem Clear.change_none {doc : Fields} {p : Path} {v : Value} (h : doc.Clear p)
    (hp : doc.place p = .found v) : doc.change ⟨p, none⟩ = doc := by
  have hsame := Value.Clear.changeFrom_none h hp
  exact Value.document.inj (Option.some.inj hsame)

end Fields

end DocUpdate
