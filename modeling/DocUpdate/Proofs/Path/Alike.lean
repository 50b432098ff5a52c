import DocUpdate.Proofs.Path.Change

/-!
# Values that differ in field order

The order of mutations decides the order of the fields they create, and nothing else. A change
cannot tell such values apart.
-/

namespace DocUpdate

namespace Value

/-- Two values differ at most in the order of fields inside documents. Fields of one name keep
their order. -/
inductive Alike : Value → Value → Prop where
  | refl (v : Value) : Alike v v
  | trans {u v w : Value} (h : Alike u v) (h' : Alike v w) : Alike u w
  /-- Two neighbours change places. -/
  | swap {k l : String} (hne : k ≠ l) (v w : Value) (rest : Fields) :
      Alike (document ((k, v) :: (l, w) :: rest)) (document ((l, w) :: (k, v) :: rest))
  | field {v w : Value} (key : String) (h : Alike v w) (rest : Fields) :
      Alike (document ((key, v) :: rest)) (document ((key, w) :: rest))
  | fields {xs ys : Fields} (field : String × Value) (h : Alike (document xs) (document ys)) :
      Alike (document (field :: xs)) (document (field :: ys))
  | item {items : List Value} {i : Nat} {v w : Value} (hi : items[i]? = some v)
      (h : Alike v w) : Alike (array items) (array (items.set i w))

namespace Alike

theorem symm {v w : Value} (h : v.Alike w) : w.Alike v := by
  induction h with
  | refl v => exact refl v
  | trans _ _ ih ih' => exact ih'.trans ih
  | swap hne v w rest => exact swap hne.symm w v rest
  | field key _ rest ih => exact ih.field key rest
  | fields x _ ih => exact ih.fields x
  | @item items i v w hi _ ih =>
    obtain ⟨hlt, rfl⟩ := List.getElem?_eq_some_iff.mp hi
    have h : ((items.set i w)[i]?) = some w := by simp [hlt]
    simpa using item h ih

end Alike

/-- Both parts are missing, or they are alike. -/
abbrev PartsAlike : Option Value → Option Value → Prop := Option.Rel Alike

theorem PartsAlike.refl (part : Option Value) : PartsAlike part part := by
  cases part with
  | none => exact .none
  | some v => exact .some (.refl v)

theorem PartsAlike.trans {a b c : Option Value} (h : PartsAlike a b) (h' : PartsAlike b c) :
    PartsAlike a c := by
  cases h with
  | none => exact h'
  | some h =>
    cases h' with
    | some h' => exact .some (h.trans h')

theorem PartsAlike.getD {a b : Option Value} (h : PartsAlike a b) (v : Value) :
    (a.getD v).Alike (b.getD v) := by
  cases h with
  | none => exact .refl v
  | some h => exact h

/-! ## One part -/

theorem Alike.part {v w : Value} (h : v.Alike w) (name : String) :
    PartsAlike (v.part name) (w.part name) := by
  induction h with
  | refl v => exact PartsAlike.refl _
  | trans _ _ ih ih' => exact ih.trans ih'
  | @swap k l hne v w rest =>
    by_cases hk : k = name
    · have hl : ¬ l = name := fun h => hne (hk.trans h.symm)
      simp only [part_document, Fields.get?_cons, if_pos hk, if_neg hl]
      exact PartsAlike.refl _
    · simp only [part_document, Fields.get?_cons, if_neg hk]
      exact PartsAlike.refl _
  | field key h rest =>
    simp only [part_document, Fields.get?_cons]
    split
    · exact .some h
    · exact PartsAlike.refl _
  | fields field _ ih =>
    obtain ⟨k, x⟩ := field
    simp only [part_document, Fields.get?_cons]
    split
    · exact PartsAlike.refl _
    · exact ih
  | @item items i v w hi h =>
    cases hj : arrayIndex? name with
    | none =>
      simp only [part_array, hj]
      exact PartsAlike.refl _
    | some j =>
      simp only [part_array, hj, Option.bind_some]
      by_cases hij : i = j
      · subst hij
        obtain ⟨hlt, -⟩ := List.getElem?_eq_some_iff.mp hi
        rw [hi, List.getElem?_set_self hlt]
        exact .some h
      · rw [List.getElem?_set_ne hij]
        exact PartsAlike.refl _

/-- Items at different positions can be put in any order, if one of them is there already. -/
theorem putItem_comm {items : List Value} {i j : Nat} (hne : i ≠ j) (hi : i < items.length)
    (v w : Value) : putItem (putItem items i v) j w = putItem (putItem items j w) i v := by
  have hi' : i < (putItem items j w).length := by rw [length_putItem]; omega
  rw [putItem_of_lt hi, putItem_of_lt hi']
  unfold putItem
  rw [List.length_set]
  split
  · exact List.set_comm _ _ hne
  · rw [List.append_assoc, List.append_assoc, List.set_append_left _ _ hi]

/-- Values that are alike stay so when a part of them is replaced. -/
theorem Alike.put {v w : Value} (h : v.Alike w) (name : String) (new : Option Value) :
    (v.alter name fun _ => new).Alike (w.alter name fun _ => new) := by
  induction h with
  | refl v => exact refl _
  | trans _ _ ih ih' => exact ih.trans ih'
  | @swap k l hne v w rest =>
    by_cases hk : k = name
    · have hl : ¬ l = name := fun h => hne (hk.trans h.symm)
      cases new with
      | none => simpa [alter, Fields.alter, Fields.erase, hk, hl] using refl _
      | some x =>
        subst hk
        simpa [alter, Fields.alter, Fields.insert, hl] using swap hne x w rest
    · by_cases hl : l = name
      · cases new with
        | none => simpa [alter, Fields.alter, Fields.erase, hk, hl] using refl _
        | some x =>
          subst hl
          simpa [alter, Fields.alter, Fields.insert, hk] using swap hne v x rest
      · cases new <;>
          simpa [alter, Fields.alter, Fields.insert, Fields.erase, hk, hl] using swap hne v w _
  | field key h rest =>
    by_cases hk : key = name
    · cases new <;>
        simpa [alter, Fields.alter, Fields.insert, Fields.erase, hk] using refl _
    · cases new <;>
        simpa [alter, Fields.alter, Fields.insert, Fields.erase, hk] using h.field key _
  | fields field h ih =>
    obtain ⟨k, x⟩ := field
    by_cases hk : k = name
    · cases new with
      | none => simpa [alter, Fields.alter, Fields.erase, hk] using ih
      | some y => simpa [alter, Fields.alter, Fields.insert, hk] using h.fields (name, y)
    · cases new <;>
        simpa [alter, Fields.alter, Fields.insert, Fields.erase, hk] using ih.fields (k, x)
  | @item items i v w hi h =>
    cases hj : arrayIndex? name with
    | none => simpa [alter, hj] using item hi h
    | some j =>
      obtain ⟨hlt, -⟩ := List.getElem?_eq_some_iff.mp hi
      simp only [alter, hj, ← putItem_of_lt hlt]
      by_cases hij : i = j
      · subst hij
        rw [putItem_putItem]
        exact refl _
      · have hi' : (putItem items j (new.getD null))[i]? = some v := by
          rw [getElem?_putItem_of_lt (Ne.symm hij) hlt, hi]
        obtain ⟨hlt', -⟩ := List.getElem?_eq_some_iff.mp hi'
        rw [putItem_comm hij hlt, putItem_of_lt hlt']
        exact item hi' h

/-- Replacing a part by values that are alike. -/
theorem PartsAlike.put {a b : Option Value} (h : PartsAlike a b) (v : Value) (name : String) :
    (v.alter name fun _ => a).Alike (v.alter name fun _ => b) := by
  cases v
  case document fields =>
    cases h with
    | none => exact .refl _
    | @some x y h =>
      simp only [alter, Fields.alter]
      induction fields with
      | nil => exact h.field name []
      | cons field rest ih =>
        obtain ⟨k, v⟩ := field
        by_cases hk : k = name
        · simpa [Fields.insert, hk] using h.field name rest
        · simpa [Fields.insert, hk] using ih.fields (k, v)
  case array items =>
    cases hi : arrayIndex? name with
    | none => simpa [alter, hi] using Alike.refl _
    | some i =>
      have hput := Alike.item (getElem?_putItem_self items i (a.getD null)) (h.getD null)
      obtain ⟨hlt, -⟩ := List.getElem?_eq_some_iff.mp (getElem?_putItem_self items i (a.getD null))
      rw [← putItem_of_lt hlt, putItem_putItem] at hput
      simpa only [alter, hi] using hput
  all_goals exact .refl _

/-- What is made of a part may depend on it as far as values that are alike give the same. -/
theorem Alike.alter {v w : Value} (h : v.Alike w) (name : String)
    {f : Option Value → Option Value}
    (hf : ∀ a b, PartsAlike a b → PartsAlike (f a) (f b)) :
    (v.alter name f).Alike (w.alter name f) := by
  rw [alter_eq_put v, alter_eq_put w]
  exact (h.put name _).trans ((hf _ _ (h.part name)).put w name)

/-! ## Changes -/

theorem PartsAlike.changeFrom {a b : Option Value} (h : PartsAlike a b) (new : Option Value)
    (ss : List Segment) : PartsAlike (changeFrom new a ss) (changeFrom new b ss) := by
  induction ss generalizing a b with
  | nil => exact PartsAlike.refl new
  | cons s rest ih => exact .some ((h.getD _).alter s.name fun _ _ hparts => ih hparts)

end Value

namespace Fields

/-- Two documents differ at most in the order of fields, also inside their values. -/
def Alike (doc other : Fields) : Prop := (Value.document doc).Alike (Value.document other)

theorem Alike.refl (doc : Fields) : doc.Alike doc := Value.Alike.refl _

theorem Alike.trans {doc mid other : Fields} (h : doc.Alike mid) (h' : mid.Alike other) :
    doc.Alike other := Value.Alike.trans h h'

theorem Alike.symm {doc other : Fields} (h : doc.Alike other) : other.Alike doc :=
  Value.Alike.symm h

theorem Alike.change {doc other : Fields} (h : doc.Alike other) (c : Change) :
    (doc.change c).Alike (other.change c) :=
  Value.Alike.alter h c.path.head.name fun _ _ hparts => hparts.changeFrom c.value c.path.tail

theorem Alike.changeAll {doc other : Fields} (h : doc.Alike other) (cs : List Change) :
    (doc.changeAll cs).Alike (other.changeAll cs) := by
  induction cs generalizing doc other with
  | nil => exact h
  | cons c rest ih => exact ih (h.change c)

end Fields

end DocUpdate
