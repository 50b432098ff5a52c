import DocUpdate.Path.Write

/-!
# Where a path leads

Reading, writing and removing at a path all follow the same walk. A place is where that walk
ends, and it alone decides what is read and whether something can be written.
-/

namespace DocUpdate

/-- Where a walk along a path ends. -/
inductive Place where
  | found (value : Value)
  /-- A document lacks the field that comes next. -/
  | missing
  /-- An array, and a segment that is no position. -/
  | noPosition (part element : String)
  /-- An array ends this far before the position that comes next. -/
  | pastEnd (gap : Nat)
  | blocked (at_ : Blocked)

namespace Place

def value? : Place → Option Value
  | found v => some v
  | _ => none

/-- What reading makes of a place. -/
def read : Place → Except Blocked (Option Value)
  | blocked at_ => .error at_
  | place => .ok place.value?

/-- Why nothing can be written at a place, if so. -/
def fault? : Place → Option WriteFault
  | noPosition part element => some (.fieldInArray part element)
  | pastEnd gap => if maxPadding < gap then some .padding else none
  | blocked at_ => some (.fieldInScalar at_.part at_.element at_.found)
  | _ => none

/-- The walk did not run out of an array. -/
def Inside (place : Place) : Prop := ∀ gap, place ≠ pastEnd gap

@[simp] theorem inside_found (v : Value) : (found v).Inside := nofun

@[simp] theorem inside_missing : missing.Inside := nofun

@[simp] theorem not_inside_pastEnd (gap : Nat) : ¬ (pastEnd gap).Inside := fun h => h gap rfl

theorem value?_eq_some_iff {place : Place} {v : Value} :
    place.value? = some v ↔ place = found v := by
  cases place <;> simp [value?]

theorem ne_found {place : Place} (h : place.value? = none) (v : Value) : place ≠ found v := by
  rintro rfl
  cases h

theorem read_eq_found_iff {place : Place} {v : Value} :
    place.read = .ok (some v) ↔ place = found v := by
  cases place <;> simp [read, value?]

end Place

namespace Value

/-! ## One step -/

/-- The part that a segment names. -/
def part (v : Value) (name : String) : Option Value := (v.child? name).join

/-- Where a walk ends that does not find the part that comes next. -/
def deadEnd (element : String) (v : Value) (s : Segment) : Place :=
  match v with
  | document _ => .missing
  | array items =>
    match arrayIndex? s.name with
    | none => .noPosition s.name element
    | some i => .pastEnd (i - items.length)
  | v => .blocked ⟨s.name, element, v.kind⟩

theorem part_document (fields : Fields) (name : String) :
    (document fields).part name = fields.get? name := rfl

theorem part_array (items : List Value) (name : String) :
    (array items).part name = (arrayIndex? name).bind fun i => items[i]? := rfl

theorem exists_position_of_part {items : List Value} {name : String} {part : Value}
    (h : (array items).part name = some part) :
    ∃ i, arrayIndex? name = some i ∧ i < items.length ∧ items[i]? = some part := by
  obtain ⟨i, hi, hitem⟩ := Option.bind_eq_some_iff.mp h
  obtain ⟨hlt, -⟩ := List.getElem?_eq_some_iff.mp hitem
  exact ⟨i, hi, hlt, hitem⟩

/-- A value that has parts that segments name. -/
def hasParts : Value → Bool
  | document _ | array _ => true
  | _ => false

theorem part_of_scalar {v : Value} (h : v.hasParts = false) (name : String) :
    v.part name = none := by
  cases v <;> first | rfl | simp [hasParts] at h

theorem child?_of_part {v part : Value} {name : String} (h : v.part name = some part) :
    v.child? name = some (some part) := Option.join_eq_some_iff.mp h

theorem child?_of_no_part {v : Value} {name : String} (h : v.part name = none) :
    v.child? name = if v.hasParts then some none else none := by
  cases v
  case document fields => exact congrArg some h
  case array items => exact congrArg some h
  all_goals rfl

theorem deadEnd_value? (element : String) (v : Value) (s : Segment) :
    (v.deadEnd element s).value? = none := by
  cases v
  case array items => cases hi : arrayIndex? s.name <;> simp [deadEnd, hi, Place.value?]
  all_goals rfl

theorem read_deadEnd (element : String) (v : Value) (s : Segment) :
    (v.deadEnd element s).read =
      if v.hasParts then .ok none else .error ⟨s.name, element, v.kind⟩ := by
  cases v
  case array items =>
    cases hi : arrayIndex? s.name <;> simp [deadEnd, hi, hasParts, Place.read, Place.value?]
  all_goals rfl

/-! ## Whole paths -/

/-- Where the segments lead from the value that `element` led to. -/
def place (element : String) (v : Value) : List Segment → Place
  | [] => .found v
  | s :: rest =>
    match v.part s.name with
    | some part => part.place s.name rest
    | none => v.deadEnd element s

@[simp] theorem place_nil (element : String) (v : Value) : v.place element [] = .found v := rfl

theorem place_of_part {v part : Value} {s : Segment} (h : v.part s.name = some part)
    (element : String) (rest : List Segment) :
    v.place element (s :: rest) = part.place s.name rest := by
  rw [place, h]

theorem place_of_no_part {v : Value} {s : Segment} (h : v.part s.name = none)
    (element : String) (rest : List Segment) :
    v.place element (s :: rest) = v.deadEnd element s := by
  rw [place, h]

/-- Something is found behind a segment only if that names a part. -/
theorem place_cons_eq_found_iff {element : String} {v w : Value} {s : Segment}
    {rest : List Segment} : v.place element (s :: rest) = .found w ↔
      ∃ part, v.part s.name = some part ∧ part.place s.name rest = .found w := by
  cases hp : v.part s.name with
  | some part => simp [place_of_part hp]
  | none =>
    rw [place_of_no_part hp]
    refine iff_of_false (fun h => ?_) (by simp)
    have hnone := deadEnd_value? element v s
    rw [h] at hnone
    cases hnone

theorem place_of_scalar {v : Value} (h : v.hasParts = false) (element : String) (s : Segment)
    (rest : List Segment) : v.place element (s :: rest) = .blocked ⟨s.name, element, v.kind⟩ := by
  rw [place_of_no_part (part_of_scalar h s.name)]
  cases v <;> first | rfl | simp [hasParts] at h

theorem readFrom_eq (element : String) (v : Value) (ss : List Segment) :
    v.readFrom element ss = (v.place element ss).read := by
  induction ss generalizing element v with
  | nil => rfl
  | cons s rest ih =>
    cases hp : v.part s.name with
    | some part =>
      rw [place_of_part hp, ← ih]
      simp only [readFrom, child?_of_part hp]
    | none =>
      rw [place_of_no_part hp, read_deadEnd]
      simp only [readFrom, child?_of_no_part hp]
      cases v.hasParts <;> rfl

end Value

namespace Fields

/-- Where a path leads in a document. -/
def place (doc : Fields) (p : Path) : Place := (Value.document doc).place p.head.name p.segments

theorem place_eq (doc : Fields) (p : Path) :
    doc.place p = match doc.get? p.head.name with
      | some part => part.place p.head.name p.tail
      | none => .missing := rfl

theorem read_eq (doc : Fields) (p : Path) : doc.read p = (doc.place p).read := by
  rw [read, place_eq]
  cases doc.get? p.head.name with
  | none => rfl
  | some v => exact Value.readFrom_eq _ _ _

end Fields

end DocUpdate
