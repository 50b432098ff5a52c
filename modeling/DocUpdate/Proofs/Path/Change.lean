import DocUpdate.Proofs.Path.Place

/-!
# What changes at a path

Writing, replacing and removing are one operation: another value, or none, takes the place of
what a path leads to. Nothing else decides the document that is left.
-/

namespace DocUpdate

/-! ## Fields -/

namespace Fields

theorem insert_insert (fields : Fields) (key : String) (a b : Value) :
    (fields.insert key a).insert key b = fields.insert key b := by
  induction fields with
  | nil => simp [insert]
  | cons field rest ih =>
    obtain ⟨k, v⟩ := field
    by_cases h : k = key <;> simp [insert, h, ih]

theorem insert_of_get? {fields : Fields} {key : String} {v : Value}
    (h : fields.get? key = some v) : fields.insert key v = fields := by
  induction fields with
  | nil => simp at h
  | cons field rest ih =>
    obtain ⟨k, w⟩ := field
    rw [get?_cons] at h
    by_cases hk : k = key
    · simp_all [insert]
    · simp_all [insert]

theorem erase_insert (fields : Fields) (key : String) (v : Value) :
    (fields.insert key v).erase key = fields.erase key := by
  induction fields with
  | nil => simp [insert, erase]
  | cons field rest ih =>
    obtain ⟨k, w⟩ := field
    by_cases h : k = key <;> simp [insert, erase, h, ih]

theorem erase_of_get?_none {fields : Fields} {key : String} (h : fields.get? key = none) :
    fields.erase key = fields := by
  induction fields with
  | nil => rfl
  | cons field rest ih =>
    obtain ⟨k, w⟩ := field
    rw [get?_cons] at h
    by_cases hk : k = key
    · simp [hk] at h
    · simp_all [erase]

/-- Gives a field the value that `f` makes of the one it has, or takes the field away. -/
def alter (fields : Fields) (key : String) (f : Option Value → Option Value) : Fields :=
  match f (fields.get? key) with
  | some v => fields.insert key v
  | none => fields.erase key

@[simp] theorem get?_alter_self (fields : Fields) (key : String) (f : Option Value → Option Value) :
    (fields.alter key f).get? key = f (fields.get? key) := by
  unfold alter
  cases h : f (fields.get? key) <;> simp

theorem get?_alter_of_ne {key other : String} (h : key ≠ other) (fields : Fields)
    (f : Option Value → Option Value) : (fields.alter key f).get? other = fields.get? other := by
  unfold alter
  cases f (fields.get? key) with
  | none => exact get?_erase_of_ne h fields
  | some v => exact get?_insert_of_ne h fields v

end Fields

/-! ## Items -/

namespace Value

theorem length_putItem (items : List Value) (i : Nat) (v : Value) :
    (putItem items i v).length = max items.length (i + 1) := by
  unfold putItem
  split
  · simp; omega
  · simp; omega

theorem putItem_of_lt {items : List Value} {i : Nat} (h : i < items.length) (v : Value) :
    putItem items i v = items.set i v := if_pos h

@[simp] theorem getElem?_putItem_self (items : List Value) (i : Nat) (v : Value) :
    (putItem items i v)[i]? = some v := by
  unfold putItem
  split
  · rename_i h
    simp [h]
  · rename_i h
    rw [List.getElem?_append_right (by simp; omega)]
    simp [show i - (items.length + (i - items.length)) = 0 by omega]

theorem getElem?_putItem_of_lt {items : List Value} {i j : Nat} (hne : i ≠ j)
    (hj : j < items.length) (v : Value) : (putItem items i v)[j]? = items[j]? := by
  unfold putItem
  split
  · exact List.getElem?_set_ne hne
  · rw [List.append_assoc, List.getElem?_append_left hj]

/-- Behind the items that were there, the gap before the new one is filled with nulls. -/
theorem getElem?_putItem_of_le {items : List Value} {i j : Nat} (hne : i ≠ j)
    (hj : items.length ≤ j) (v : Value) :
    (putItem items i v)[j]? = if j < i then some null else none := by
  split
  · rw [putItem, if_neg (by omega), List.append_assoc, List.getElem?_append_right hj,
      List.getElem?_append_left (by simp; omega), List.getElem?_replicate, if_pos (by omega)]
  · rw [List.getElem?_eq_none (by rw [length_putItem]; omega)]

theorem putItem_putItem (items : List Value) (i : Nat) (v w : Value) :
    putItem (putItem items i v) i w = putItem items i w := by
  have hlen : i < (putItem items i v).length := by rw [length_putItem]; omega
  rw [putItem_of_lt hlen]
  unfold putItem
  split
  · simp
  · rw [List.set_append_right _ _ (by simp; omega)]
    simp [show i - (items.length + (i - items.length)) = 0 by omega]

theorem putItem_of_getElem? {items : List Value} {i : Nat} {v : Value} (h : items[i]? = some v) :
    putItem items i v = items := by
  obtain ⟨hi, rfl⟩ := List.getElem?_eq_some_iff.mp h
  rw [putItem_of_lt hi, List.set_getElem_self]

/-! ## Parts -/

/-- Gives the part that a segment names the value that `f` makes of it. A field may be taken
away, an item becomes null instead. -/
def alter (v : Value) (name : String) (f : Option Value → Option Value) : Value :=
  match v with
  | document fields => document (Fields.alter fields name f)
  | array items =>
    match arrayIndex? name with
    | some i => array (putItem items i ((f items[i]?).getD null))
    | none => v
  | _ => v

theorem alter_eq_put (v : Value) (name : String) (f : Option Value → Option Value) :
    v.alter name f = v.alter name fun _ => f (v.part name) := by
  cases v
  case document fields => rfl
  case array items =>
    cases hi : arrayIndex? name <;> simp only [alter, part_array, hi, Option.bind_some]
  all_goals rfl

theorem alter_of_part {v part : Value} {name : String} (h : v.part name = some part) :
    (v.alter name fun _ => some part) = v := by
  cases v
  case document fields => exact congrArg document (Fields.insert_of_get? h)
  case array items =>
    obtain ⟨i, hi, -, hitem⟩ := exists_position_of_part h
    simp only [alter, hi, Option.getD_some, putItem_of_getElem? hitem]
  all_goals rfl

/-- A part of that name can be put, if it is not there already. -/
def takes (v : Value) (name : String) : Bool :=
  match v with
  | document _ => true
  | array _ => (arrayIndex? name).isSome
  | _ => false

theorem alter_of_not_takes {v : Value} {name : String} (h : v.takes name = false)
    (f : Option Value → Option Value) : v.alter name f = v := by
  cases v
  case document => cases h
  case array items =>
    have hi : arrayIndex? name = none := by simpa [takes] using h
    simp only [alter, hi]
  all_goals rfl

theorem part_alter_self {v : Value} {name : String} (h : v.takes name) (g : Option Value → Value) :
    (v.alter name fun part => some (g part)).part name = some (g (v.part name)) := by
  cases v
  case document fields => exact Fields.get?_alter_self fields name fun part => some (g part)
  case array items =>
    obtain ⟨i, hi⟩ := Option.isSome_iff_exists.mp h
    simp only [alter, part_array, hi, Option.bind_some, Option.getD_some, getElem?_putItem_self]
  all_goals cases h

theorem putChild_of_part {v part : Value} {name : String} (h : v.part name = some part)
    (new : Value) : v.putChild name new = v.alter name fun _ => some new := by
  cases v
  case document fields => rfl
  case array items =>
    obtain ⟨i, hi, hlt, -⟩ := exists_position_of_part h
    simp only [putChild, alter, hi, Option.getD_some, putItem_of_lt hlt]
  all_goals rfl

theorem dropChild?_eq (v : Value) (name : String) :
    v.dropChild? name = (v.part name).map fun _ => v.alter name fun _ => none := by
  cases v
  case document fields =>
    cases hs : Fields.get? fields name <;>
      simp [dropChild?, part_document, hs, Fields.contains, alter, Fields.alter]
  case array items =>
    cases hi : arrayIndex? name with
    | none => simp [dropChild?, part_array, hi]
    | some i =>
      by_cases hlt : i < items.length
      · simp [dropChild?, part_array, hi, hlt, alter, putItem_of_lt hlt]
      · simp [dropChild?, part_array, hi, hlt]
  all_goals rfl

/-- Two changes of one part are one, if the first leaves something. -/
theorem alter_alter {f g : Option Value → Option Value} (hf : ∀ part, (f part).isSome) (v : Value)
    (name : String) : (v.alter name f).alter name g = v.alter name fun part => g (f part) := by
  cases v
  case document fields =>
    simp only [alter, Fields.alter, document.injEq]
    obtain ⟨x, hx⟩ := Option.isSome_iff_exists.mp (hf (Fields.get? fields name))
    simp only [hx, Fields.get?_insert_self]
    cases g (some x) with
    | some y => exact Fields.insert_insert _ _ _ _
    | none => exact Fields.erase_insert _ _ _
  case array items =>
    simp only [alter]
    cases hi : arrayIndex? name with
    | none => simp
    | some i =>
      obtain ⟨x, hx⟩ := Option.isSome_iff_exists.mp (hf items[i]?)
      simp [hx, putItem_putItem]
  all_goals rfl

/-! ## Paths -/

/-- What stands at the start of the segments once `new` stands at their end. Documents are
created on the way. -/
def changeFrom (new : Option Value) : Option Value → List Segment → Option Value
  | _, [] => new
  | old, s :: rest =>
    some ((old.getD (document [])).alter s.name fun part => changeFrom new part rest)

theorem changeFrom_getD (new part : Option Value) (s : Segment) (rest : List Segment) :
    changeFrom new part (s :: rest) =
      changeFrom new (some (part.getD (document []))) (s :: rest) := rfl

theorem changeFrom_isSome (value : Value) (old : Option Value) (ss : List Segment) :
    ∃ w, changeFrom (some value) old ss = some w := by
  cases ss <;> exact ⟨_, rfl⟩

/-! ## Writing -/

/-- A walk that cannot end well changes nothing on its way. -/
theorem writeFrom_of_fault {value v : Value} {element : String} {ss : List Segment}
    {fault : WriteFault} (h : (v.place element ss).fault? = some fault) :
    writeFrom value element v ss = (.error fault, v) := by
  induction ss generalizing element v with
  | nil => cases h
  | cons s rest ih =>
    cases v
    case document fields =>
      cases hp : (document fields).part s.name with
      | none =>
        rw [place_of_no_part hp] at h
        cases h
      | some part =>
        rw [place_of_part hp] at h
        cases rest with
        | nil => cases h
        | cons t rest =>
          rw [part_document] at hp
          simp [writeFrom, Fields.contains, hp, ih h, Fields.insert_of_get? hp]
    case array items =>
      cases hi : arrayIndex? s.name with
      | none =>
        rw [place_of_no_part (by simp [part_array, hi])] at h
        simp only [deadEnd, hi, Place.fault?, Option.some.injEq] at h
        simp [writeFrom, hi, h]
      | some i =>
        cases hs : items[i]? with
        | none =>
          rw [place_of_no_part (by simp [part_array, hi, hs])] at h
          simp only [deadEnd, hi, Place.fault?] at h
          split at h
          · rename_i hgap
            simp only [Option.some.injEq] at h
            simp [writeFrom, hi, hgap, h]
          · cases h
        | some part =>
          rw [place_of_part (by simpa [part_array, hi] using hs)] at h
          obtain ⟨hlt, rfl⟩ := List.getElem?_eq_some_iff.mp hs
          cases rest with
          | nil => cases h
          | cons t rest =>
            have hgap : ¬ maxPadding < i - items.length := by omega
            simp [writeFrom, hi, hgap, hlt, ih h]
    all_goals
      rw [place_of_scalar rfl, Place.fault?, Option.some.injEq] at h
      simp [writeFrom, h]

/-- Where something can be written below a value, it can be written below each part on the
way, also if that is created. -/
theorem fault?_part {v : Value} {element : String} {s : Segment} {rest : List Segment}
    (h : (v.place element (s :: rest)).fault? = none) :
    (((v.part s.name).getD (document [])).place s.name rest).fault? = none := by
  cases hp : v.part s.name with
  | some part => rwa [place_of_part hp] at h
  | none => cases rest <;> rfl

theorem takes_of_free {v : Value} {element : String} {s : Segment} {rest : List Segment}
    (h : (v.place element (s :: rest)).fault? = none) : v.takes s.name := by
  cases v
  case document => rfl
  case array items =>
    cases hi : arrayIndex? s.name with
    | some i => simp [takes, hi]
    | none =>
      rw [place_of_no_part (by simp [part_array, hi])] at h
      simp [deadEnd, hi, Place.fault?] at h
  all_goals cases h

/-- A walk that can end well does so. -/
theorem writeFrom_of_free {v : Value} {element : String} {ss : List Segment} (value : Value)
    (h : (v.place element ss).fault? = none) :
    ∃ w, writeFrom value element v ss = (.ok (), w) ∧
      changeFrom (some value) (some v) ss = some w := by
  induction ss generalizing element v with
  | nil => exact ⟨value, by cases v <;> rfl, rfl⟩
  | cons s rest ih =>
    cases v
    case document fields =>
      cases rest with
      | nil => exact ⟨_, rfl, rfl⟩
      | cons t rest =>
        obtain ⟨w, hw, hc⟩ := ih (fault?_part h)
        rw [part_document] at hw hc
        refine ⟨document (Fields.insert fields s.name w), ?_, ?_⟩
        · cases hs : Fields.get? fields s.name with
          | none =>
            simp only [hs, Option.getD_none] at hw
            simp [writeFrom, Fields.contains, hs, hw, Fields.insert_insert]
          | some part =>
            simp only [hs, Option.getD_some] at hw
            simp [writeFrom, Fields.contains, hs, hw]
        · rw [← changeFrom_getD] at hc
          rw [changeFrom]
          simp only [Option.getD_some, alter, Fields.alter, hc]
    case array items =>
      obtain ⟨i, hi⟩ := Option.isSome_iff_exists.mp (takes_of_free h)
      have hgap : ¬ maxPadding < i - items.length := by
        cases hs : items[i]? with
        | none =>
          rw [place_of_no_part (by simp [part_array, hi, hs])] at h
          simpa [deadEnd, hi, Place.fault?] using h
        | some part =>
          obtain ⟨hlt, -⟩ := List.getElem?_eq_some_iff.mp hs
          omega
      cases rest with
      | nil =>
        refine ⟨array (putItem items i value), ?_, ?_⟩
        · simp [writeFrom, hi, hgap]
        · simp [changeFrom, alter, hi]
      | cons t rest =>
        obtain ⟨w, hw, hc⟩ := ih (fault?_part h)
        rw [part_array, hi, Option.bind_some] at hw hc
        refine ⟨array (putItem items i w), ?_, ?_⟩
        · by_cases hlt : i < items.length
          · rw [putItem_of_lt hlt]
            simp only [List.getElem?_eq_getElem hlt, Option.getD_some] at hw
            simp [writeFrom, hi, hgap, hlt, hw]
          · -- The array is filled up first, and the document put there is replaced at once.
            have hs : items[i]? = none := List.getElem?_eq_none (by omega)
            have hlen : i < (putItem items i (document [])).length := by
              rw [length_putItem]
              omega
            simp only [hs, Option.getD_none] at hw
            simp [writeFrom, hi, hgap, hlt, hw, ← putItem_of_lt hlen, putItem_putItem]
        · rw [← changeFrom_getD] at hc
          rw [changeFrom]
          simp only [Option.getD_some, alter, hi, hc]
    all_goals
      rw [place_of_scalar rfl] at h
      cases h

/-! ## Removing and replacing -/

/-- Only what is found is removed. -/
theorem removeFrom_eq (element : String) (v : Value) (s : Segment) (rest : List Segment) :
    v.removeFrom s rest =
      (v.place element (s :: rest)).value?.bind fun _ => changeFrom none (some v) (s :: rest) := by
  induction rest generalizing element v s with
  | nil =>
    rw [removeFrom, dropChild?_eq]
    cases hp : v.part s.name with
    | some part =>
      rw [place_of_part hp]
      rfl
    | none =>
      rw [place_of_no_part hp, deadEnd_value?]
      rfl
  | cons t rest ih =>
    cases hp : v.part s.name with
    | some part =>
      rw [place_of_part hp, changeFrom, Option.getD_some, alter_eq_put, hp]
      simp only [removeFrom, child?_of_part hp, ih s.name part t]
      cases (part.place s.name (t :: rest)).value? with
      | none => rfl
      | some old => exact congrArg some (putChild_of_part hp _)
    | none =>
      rw [place_of_no_part hp, deadEnd_value?]
      simp only [removeFrom, child?_of_no_part hp]
      cases v.hasParts <;> rfl

/-- Only what is found is replaced. -/
theorem modifyFrom_eq (f : Value → Value) (element : String) (v : Value) (ss : List Segment) :
    v.modifyFrom f element ss =
      (v.place element ss).read.map fun found =>
        found.bind fun old => changeFrom (some (f old)) (some v) ss := by
  induction ss generalizing element v with
  | nil => rfl
  | cons s rest ih =>
    cases hp : v.part s.name with
    | some part =>
      rw [place_of_part hp]
      simp only [modifyFrom, child?_of_part hp, ih s.name part]
      rcases (part.place s.name rest).read with walk | _ | old
      · rfl
      · rfl
      · obtain ⟨w, hw⟩ := changeFrom_isSome (f old) (some part) rest
        simp only [Except.map, Option.bind_some, Option.map_some, hw, putChild_of_part hp, changeFrom,
          Option.getD_some]
        rw [alter_eq_put v s.name fun part => changeFrom _ part rest, hp, hw]
    | none =>
      rw [place_of_no_part hp, read_deadEnd]
      simp only [modifyFrom, child?_of_no_part hp]
      cases v.hasParts <;> rfl

end Value

/-! ## Documents -/

/-- A value for the place of a path, or none for an empty place. -/
structure Change where
  path : Path
  value : Option Value

namespace Fields

/-- Carries out a change. -/
def change (doc : Fields) (c : Change) : Fields :=
  doc.alter c.path.head.name fun part => Value.changeFrom c.value part c.path.tail

/-- Carries out changes in order. -/
def changeAll (doc : Fields) (changes : List Change) : Fields := changes.foldl change doc

theorem changeAll_cons (doc : Fields) (c : Change) (rest : List Change) :
    doc.changeAll (c :: rest) = (doc.change c).changeAll rest := rfl

theorem changeAll_append (doc : Fields) (cs ds : List Change) :
    doc.changeAll (cs ++ ds) = (doc.changeAll cs).changeAll ds := List.foldl_append

/-- Writing in a document is writing below it as a value. -/
theorem writeFrom_document (doc : Fields) (p : Path) (value : Value) :
    Value.writeFrom value p.head.name (.document doc) p.segments =
      ((doc.write p value).1, .document (doc.write p value).2) := by
  obtain ⟨head, tail⟩ := p
  cases tail <;> rfl

/-- Writing either changes the document as asked or leaves it as it was. -/
theorem write_eq (doc : Fields) (p : Path) (value : Value) :
    doc.write p value = match (doc.place p).fault? with
      | some fault => (.error fault, doc)
      | none => (.ok (), doc.change ⟨p, some value⟩) := by
  have h := writeFrom_document doc p value
  cases hf : (doc.place p).fault? with
  | some fault =>
    rw [Value.writeFrom_of_fault hf] at h
    simp only [Prod.mk.injEq, Value.document.injEq] at h
    exact Prod.ext h.1.symm h.2.symm
  | none =>
    obtain ⟨w, hw, hc⟩ := Value.writeFrom_of_free value hf
    have hw' : w = .document (doc.change ⟨p, some value⟩) := (Option.some.inj hc).symm
    rw [hw, hw'] at h
    simp only [Prod.mk.injEq, Value.document.injEq] at h
    exact Prod.ext h.1.symm h.2.symm

theorem remove?_eq (doc : Fields) (p : Path) :
    doc.remove? p = (doc.place p).value?.map fun _ => doc.change ⟨p, none⟩ := by
  have h : (doc.remove? p).map Value.document =
      Value.removeFrom (.document doc) p.head p.tail := by
    obtain ⟨head, tail⟩ := p
    cases tail with
    | nil =>
      simp only [remove?, Value.removeFrom, Value.dropChild?]
      split <;> rfl
    | cons s rest =>
      simp only [remove?, Value.removeFrom, Value.child?]
      cases doc.get? head.name with
      | none => rfl
      | some part =>
        simp only [Option.map_map]
        rfl
  rw [Value.removeFrom_eq p.head.name] at h
  change _ = (doc.place p).value?.bind _ at h
  cases hp : (doc.place p).value? with
  | none => simpa [hp] using h
  | some v =>
    rw [hp] at h
    change _ = some (Value.document (doc.change ⟨p, none⟩)) at h
    obtain ⟨after, ha, hd⟩ := Option.map_eq_some_iff.mp h
    rw [ha, Value.document.inj hd]
    rfl

theorem modify_eq (doc : Fields) (p : Path) (f : Value → Value) :
    doc.modify p f =
      (doc.place p).read.map fun found => found.map fun old => doc.change ⟨p, some (f old)⟩ := by
  rw [modify, place_eq]
  cases hs : doc.get? p.head.name with
  | none => rfl
  | some part =>
    simp only [Value.modifyFrom_eq]
    cases (part.place p.head.name p.tail).read with
    | error walk => rfl
    | ok found =>
      cases found with
      | none => rfl
      | some old =>
        obtain ⟨w, hw⟩ := Value.changeFrom_isSome (f old) (some part) p.tail
        simp [Except.map, change, alter, hs, hw]

theorem replace_eq (doc : Fields) (p : Path) (value : Value) :
    doc.replace p value =
      (doc.place p).read.map fun found => found.map fun _ => doc.change ⟨p, some value⟩ :=
  modify_eq doc p fun _ => value

end Fields

end DocUpdate
