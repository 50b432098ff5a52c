import DocUpdate.Proofs.Path.Frame
import DocUpdate.Proofs.Value.Keys

/-!
# What stands on the way of a path

The first segments of a path lead to a container, and the next one names a part of it. A change
at the end of the path shows in that container as a change of this one part.
-/

namespace DocUpdate

namespace Value

/-! ## Walks in two parts -/

/-- The name of the last of some segments, or what led to the first if there are none. -/
def lastName (element : String) (ss : List Segment) : String := ss.foldl (fun _ s => s.name) element

theorem place_append_of_found {v w : Value} {element : String} {ss : List Segment}
    (h : v.place element ss = .found w) (ts : List Segment) :
    v.place element (ss ++ ts) = w.place (lastName element ss) ts := by
  induction ss generalizing element v with
  | nil =>
    obtain rfl : v = w := by simpa using h
    rfl
  | cons s rest ih =>
    obtain ⟨part, hp, hrest⟩ := place_cons_eq_found_iff.mp h
    rw [List.cons_append, place_of_part hp]
    exact ih hrest

theorem place_append_of_not_found {v : Value} {element : String} {ss : List Segment}
    (h : (v.place element ss).value? = none) (ts : List Segment) :
    v.place element (ss ++ ts) = v.place element ss := by
  induction ss generalizing element v with
  | nil => cases h
  | cons s rest ih =>
    rw [List.cons_append]
    cases hp : v.part s.name with
    | some part =>
      rw [place_of_part hp] at h ⊢
      rw [place_of_part hp]
      exact ih h
    | none => rw [place_of_no_part hp, place_of_no_part hp]

/-- The segment that led to the document itself is never named. -/
theorem place_document_element (fields : Fields) (element other : String) (ss : List Segment) :
    (document fields).place element ss = (document fields).place other ss := by
  cases ss <;> rfl

/-! ## Walks that are refused -/

/-- Nothing can be put where the segment leads: the value has no parts, or it is an array in
which the segment is no position, or one too far behind the end. -/
def Refuses (v : Value) (s : Segment) : Prop :=
  match v with
  | document _ => False
  | array items =>
    match arrayIndex? s.name with
    | none => True
    | some i => items.length + maxPadding < i
  | _ => True

theorem not_refuses_of_part {v part : Value} {s : Segment} (h : v.part s.name = some part) :
    ¬ v.Refuses s := by
  cases v
  case document => exact id
  case array items =>
    obtain ⟨i, hi, hlt, -⟩ := exists_position_of_part h
    simp only [Refuses, hi]
    omega
  all_goals cases h

theorem refuses_iff_of_no_part {v : Value} {s : Segment} (h : v.part s.name = none)
    (element : String) : v.Refuses s ↔ ∃ fault, (v.deadEnd element s).fault? = some fault := by
  cases v
  case document => simp [Refuses, deadEnd, Place.fault?]
  case array items =>
    cases hi : arrayIndex? s.name with
    | none => simp [Refuses, deadEnd, hi, Place.fault?]
    | some i =>
      simp only [Refuses, deadEnd, hi, Place.fault?]
      split
      · exact iff_of_true (by omega) ⟨_, rfl⟩
      · exact iff_of_false (by omega) (by simp)
  all_goals exact iff_of_true trivial ⟨_, rfl⟩

/-- Nothing can be written at the end of some segments exactly if a value on the way refuses the
segment that comes next. -/
theorem fault?_iff_refuses {v : Value} {element : String} {ss : List Segment} :
    (∃ fault, (v.place element ss).fault? = some fault) ↔
      ∃ r s rest w, ss = r ++ s :: rest ∧ v.place element r = .found w ∧ w.Refuses s := by
  induction ss generalizing element v with
  | nil => simp [Place.fault?]
  | cons t ts ih =>
    cases hp : v.part t.name with
    | some part =>
      rw [place_of_part hp, ih]
      constructor
      · rintro ⟨r, s, rest, w, rfl, hw, hrefuses⟩
        exact ⟨t :: r, s, rest, w, rfl, (place_of_part hp _ _).trans hw, hrefuses⟩
      · rintro ⟨r, s, rest, w, hsplit, hw, hrefuses⟩
        cases r with
        | nil =>
          obtain ⟨rfl, rfl⟩ := List.cons.inj hsplit
          obtain rfl : v = w := by simpa using hw
          exact absurd hrefuses (not_refuses_of_part hp)
        | cons u r =>
          obtain ⟨rfl, rfl⟩ := List.cons.inj hsplit
          rw [place_of_part hp] at hw
          exact ⟨r, s, rest, w, rfl, hw, hrefuses⟩
    | none =>
      rw [place_of_no_part hp, ← refuses_iff_of_no_part hp element]
      constructor
      · exact fun hrefuses => ⟨[], t, ts, v, rfl, rfl, hrefuses⟩
      · rintro ⟨r, s, rest, w, hsplit, hw, hrefuses⟩
        cases r with
        | nil =>
          obtain ⟨rfl, rfl⟩ := List.cons.inj hsplit
          obtain rfl : v = w := by simpa using hw
          exact hrefuses
        | cons u r =>
          obtain ⟨rfl, rfl⟩ := List.cons.inj hsplit
          obtain ⟨part, hpart, -⟩ := place_cons_eq_found_iff.mp hw
          rw [hp] at hpart
          cases hpart

/-! ## Changes seen from the way -/

/-- After a change at the end of some segments, what stands on the way is what stood there with
one part changed. Where nothing stood it is a new document. -/
theorem place_changeFrom_start {new : Option Value} {v w : Value} {element : String}
    {r rest : List Segment} {s : Segment}
    (hfree : (v.place element (r ++ s :: rest)).fault? = none)
    (hw : changeFrom new (some v) (r ++ s :: rest) = some w) :
    w.place element r = .found
      (((v.place element r).value?.getD (document [])).alter s.name
        fun part => changeFrom new part rest) := by
  induction r generalizing element v w with
  | nil =>
    obtain rfl := Option.some.inj hw
    rfl
  | cons t r ih =>
    obtain ⟨x, hx⟩ : ∃ x, changeFrom new (v.part t.name) (r ++ s :: rest) = some x := by
      cases r <;> exact ⟨_, rfl⟩
    have hplace := ih (fault?_part hfree) (by rw [← hx]; cases r <;> rfl)
    obtain rfl : v.alter t.name (fun part => changeFrom new part (r ++ s :: rest)) = w :=
      Option.some.inj hw
    rw [alter_eq_put, hx, place_of_part (part_alter_self (takes_of_free hfree) fun _ => x), hplace]
    cases hp : v.part t.name with
    | some part => rw [place_of_part hp, Option.getD_some]
    | none =>
      -- What is created on the way is empty, so nothing is found in it either.
      rw [place_of_no_part hp, deadEnd_value?]
      cases r <;> rfl

end Value

/-! ## Documents -/

namespace Fields

/-- What some segments lead to from the document itself. -/
def reached (doc : Fields) (ss : List Segment) : Option Value :=
  match (Value.document doc).readFrom "" ss with
  | .ok found => found
  | .error _ => none

theorem reached_eq (doc : Fields) (element : String) (ss : List Segment) :
    doc.reached ss = ((Value.document doc).place element ss).value? := by
  rw [reached, Value.readFrom_eq, Value.place_document_element doc "" element]
  cases (Value.document doc).place element ss <;> rfl

theorem reached_eq_some_iff {doc : Fields} {r : Path} {v : Value} :
    doc.reached r.segments = some v ↔ doc.read r = .ok (some v) := by
  rw [reached_eq doc r.head.name, Place.value?_eq_some_iff, read_eq, Place.read_eq_found_iff]
  exact Iff.rfl

/-- What stands on the way of the path refuses the segment that comes next. -/
def Obstructs (doc : Fields) (p : Path) : Prop :=
  ∃ (r : Path) (s : Segment) (rest : List Segment) (v : Value),
    p.segments = r.segments ++ s :: rest ∧ doc.read r = .ok (some v) ∧ v.Refuses s

theorem place_eq_of_element (doc : Fields) (element : String) (p : Path) :
    doc.place p = (Value.document doc).place element p.segments := rfl

theorem fault?_iff_obstructs {doc : Fields} {p : Path} :
    (∃ fault, (doc.place p).fault? = some fault) ↔ doc.Obstructs p := by
  rw [place, Value.fault?_iff_refuses]
  constructor
  · rintro ⟨r, s, rest, w, hsplit, hw, hrefuses⟩
    cases r with
    | nil =>
      obtain rfl : .document doc = w := by simpa using hw
      exact hrefuses.elim
    | cons t r =>
      refine ⟨⟨t, r⟩, s, rest, w, hsplit, ?_, hrefuses⟩
      rw [read_eq, Place.read_eq_found_iff, place_eq_of_element doc p.head.name]
      exact hw
  · rintro ⟨r, s, rest, w, hsplit, hw, hrefuses⟩
    rw [read_eq, Place.read_eq_found_iff, place_eq_of_element doc p.head.name] at hw
    exact ⟨r.segments, s, rest, w, hsplit, hw, hrefuses⟩

theorem fault?_eq_none_iff {doc : Fields} {p : Path} :
    (doc.place p).fault? = none ↔ ¬ doc.Obstructs p := by
  rw [← fault?_iff_obstructs, Option.eq_none_iff_forall_ne_some, not_exists]

/-- Each segment of a path where something is found names a part of what stands there. -/
theorem exists_part_of_found {doc : Fields} {p : Path} {found : Value} {r rest : List Segment}
    {s : Segment} (h : doc.place p = .found found) (hsplit : p.segments = r ++ s :: rest) :
    ∃ v part, doc.reached r = some v ∧ v.part s.name = some part := by
  rw [place_eq_of_element doc "", hsplit] at h
  rw [reached_eq doc ""]
  cases hp : (Value.document doc).place "" r with
  | found v =>
    rw [Value.place_append_of_found hp] at h
    obtain ⟨part, hpart, -⟩ := Value.place_cons_eq_found_iff.mp h
    exact ⟨v, part, rfl, hpart⟩
  | _ =>
    rw [Value.place_append_of_not_found (by rw [hp]; rfl), hp] at h
    cases h

/-- After a change, what stands on the way of its path has one part changed. -/
theorem reached_change {doc : Fields} {c : Change} (hfree : (doc.place c.path).fault? = none)
    {r rest : List Segment} {s : Segment} (hsplit : c.path.segments = r ++ s :: rest) :
    (doc.change c).reached r = some (((doc.reached r).getD (.document [])).alter s.name
      fun part => Value.changeFrom c.value part rest) := by
  rw [place, hsplit] at hfree
  have hw : Value.changeFrom c.value (some (.document doc)) (r ++ s :: rest) =
      some (.document (doc.change c)) := by
    rw [← hsplit]
    rfl
  rw [reached_eq _ c.path.head.name, Value.place_changeFrom_start hfree hw,
    reached_eq _ c.path.head.name]
  rfl

end Fields

end DocUpdate
