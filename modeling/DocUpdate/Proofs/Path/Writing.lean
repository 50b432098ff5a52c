import DocUpdate.Proofs.Path.Reach

/-!
# What writing does

Writing fails just where something stands in the way. Otherwise the value is found at its path,
and every path apart from it is read as before, unless it leads through a position that was
behind the end of an array and got a null.
-/

namespace DocUpdate

/-! ## Outlines -/

/-- A container without what stands in it: the names of its fields in order, or how many items
it has. -/
inductive Outline where
  | names (names : List String)
  | items (count : Nat)
deriving DecidableEq

/-- The outline with the part that a segment names. A field that is new stands behind the
others, and items are added up to the position. -/
def Outline.add (outline : Outline) (s : Segment) : Outline :=
  match outline with
  | names ns => names (addKey ns s.name)
  | items n =>
    match arrayIndex? s.name with
    | some i => items (max n (i + 1))
    | none => items n

namespace Value

def outline? : Value → Option Outline
  | document fields => some (.names (Fields.keys fields))
  | array items => some (.items items.length)
  | _ => none

/-- Putting a part adds it to the outline. -/
theorem outline?_alter {v : Value} {s : Segment} (h : v.takes s.name)
    (g : Option Value → Value) : ∃ outline, v.outline? = some outline ∧
      (v.alter s.name fun part => some (g part)).outline? = some (outline.add s) := by
  cases v
  case document fields =>
    refine ⟨_, rfl, congrArg (some ∘ Outline.names) ?_⟩
    exact Fields.keys_insert fields s.name _
  case array items =>
    obtain ⟨i, hi⟩ := Option.isSome_iff_exists.mp h
    refine ⟨_, rfl, ?_⟩
    simp only [alter, hi, outline?, Outline.add, length_putItem]
  all_goals cases h

/-- A part that is there adds nothing. -/
theorem outline?_add_of_part {v part : Value} {s : Segment} (h : v.part s.name = some part)
    {outline : Outline} (ho : v.outline? = some outline) : outline.add s = outline := by
  cases v
  case document fields =>
    cases ho
    have hmem : s.name ∈ Fields.keys fields := by
      by_contra hnone
      rw [part_document, (Fields.get?_eq_none_iff fields s.name).mpr hnone] at h
      cases h
    exact congrArg Outline.names (addKey_of_mem hmem)
  case array items =>
    cases ho
    obtain ⟨i, hi, hlt, -⟩ := exists_position_of_part h
    simp only [Outline.add, hi, Nat.max_eq_left hlt]
  all_goals cases ho

/-! ## Reading behind a changed part -/

/-- Only a part that was missing from an array reads otherwise when another part is put. -/
theorem read_alter_of_not_fills {v : Value} {s t : Segment} (hne : s ≠ t) (h : ¬ v.Fills s t)
    (f : Option Value → Option Value) (element : String) (ts : List Segment) :
    ((v.alter s.name f).place element (t :: ts)).read = (v.place element (t :: ts)).read := by
  have hpart := part_alter_of_not_fills hne h f
  cases hp : v.part t.name with
  | some part => rw [place_of_part hp, place_of_part (hpart.trans hp)]
  | none =>
    rw [place_of_no_part hp, place_of_no_part (hpart.trans hp), read_deadEnd, read_deadEnd]
    cases v
    case array items => cases hi : arrayIndex? s.name <;> simp only [alter, hi, hasParts, if_true]
    all_goals rfl

/-- What is filled up was missing, and is null. -/
theorem read_of_fills {v : Value} {s t : Segment} (h : v.Fills s t)
    (f : Option Value → Option Value) (element : String) (ts : List Segment) :
    (v.place element (t :: ts)).read = .ok none ∧
      ((v.alter s.name f).place element (t :: ts)).read = null.readFrom t.name ts := by
  constructor
  · obtain ⟨items, i, j, rfl, hi, hj, hle, hlt⟩ := h
    have hnone : (array items).part t.name = none := by
      rw [part_array, hj, Option.bind_some, List.getElem?_eq_none hle]
    rw [place_of_no_part hnone, read_deadEnd]
    rfl
  · rw [place_of_part (part_alter_of_fills h f), readFrom_eq]

end Value

theorem Place.read_of_free {place : Place} (hfree : place.fault? = none)
    (hvalue : place.value? = none) : place.read = .ok none := by
  cases place with
  | found v => cases hvalue
  | blocked walk => cases hfree
  | _ => rfl

theorem Place.value?_of_read {place : Place} (h : place.read = .ok none) :
    place.value? = none := by
  cases place with
  | found v => cases h
  | _ => rfl

/-- Paths that are apart part behind the segments they share. -/
theorem Path.exists_parting {ss ts : List Segment} (h : agree ss ts = false) :
    ∃ r s ss' t ts', ss = r ++ s :: ss' ∧ ts = r ++ t :: ts' ∧ s ≠ t := by
  induction ss generalizing ts with
  | nil => cases h
  | cons s ss ih =>
    obtain ⟨-, -, t, ts, -, rfl⟩ := exists_cons_of_agree_eq_false h
    by_cases hne : s = t
    · subst hne
      have hrest : agree ss ts = false := by simpa [agree_cons_eq_false] using h
      obtain ⟨r, s', ss', t', ts', rfl, rfl, hne⟩ := ih hrest
      exact ⟨s :: r, s', ss', t', ts', rfl, rfl, hne⟩
    · exact ⟨[], s, ss, t, ts, rfl, rfl, hne⟩

namespace Fields

def outline? (doc : Fields) (ss : List Segment) : Option Outline :=
  (doc.reached ss).bind Value.outline?

/-- Writing at `p` fills an array up with nulls, and `q` leads through one of these: `t` names
it, and `rest` is what comes behind it. -/
def Pads (doc : Fields) (p q : Path) (t : Segment) (rest : List Segment) : Prop :=
  ∃ (r : Path) (s : Segment) (ss : List Segment) (items : List Value) (i j : Nat),
    p.segments = r.segments ++ s :: ss ∧ q.segments = r.segments ++ t :: rest ∧
    doc.read r = .ok (some (.array items)) ∧
    arrayIndex? s.name = some i ∧ arrayIndex? t.name = some j ∧ items.length ≤ j ∧ j < i

/-- `after` is the document with a value put at a path. -/
structure Put (doc : Fields) (p : Path) (value : Value) (after : Fields) : Prop where
  at_path : after.read p = .ok (some value)
  apart : ∀ q, p.Apart q → (∀ t rest, ¬ doc.Pads p q t rest) → after.read q = doc.read q
  /-- A null that fills an array up is found, or is in the way. -/
  padded : ∀ q t rest, doc.Pads p q t rest → doc.read q = .ok none ∧
    after.read q = match rest with
      | [] => .ok (some .null)
      | s :: _ => .error ⟨s.name, t.name, .null⟩
  /-- Where no container was on the way there is a document with the one part. -/
  on_way : ∀ r s rest, p.segments = r ++ s :: rest →
    after.outline? r = some (((doc.outline? r).getD (.names [])).add s)

/-! ## Reading after a change -/

section

variable {doc : Fields} {c : Change} {r ss ts : List Segment} {s t : Segment}

theorem free_of_start (hfree : (doc.place c.path).fault? = none)
    (hsplit : c.path.segments = r ++ s :: ss) (element : String) :
    ((Value.document doc).place element r).fault? = none ∧
      (((doc.reached r).getD (.document [])).place (Value.lastName element r) (s :: ss)).fault? =
        none := by
  rw [place_eq_of_element doc element, hsplit] at hfree
  rw [reached_eq doc element]
  cases hp : (Value.document doc).place element r with
  | found w =>
    rw [Value.place_append_of_found hp] at hfree
    exact ⟨rfl, hfree⟩
  | _ =>
    rw [Value.place_append_of_not_found (by rw [hp]; rfl), hp] at hfree
    exact ⟨hfree, by cases ss <;> rfl⟩

/-- Where two paths part, both are read from the container there. -/
theorem read_of_start {q : Path} {element : String}
    (hfree : ((Value.document doc).place element r).fault? = none)
    (hsplit : q.segments = r ++ t :: ts) :
    doc.read q =
      (((doc.reached r).getD (.document [])).place (Value.lastName element r) (t :: ts)).read := by
  rw [read_eq, place_eq_of_element doc element, hsplit, reached_eq doc element]
  cases hp : (Value.document doc).place element r with
  | found w =>
    rw [Value.place_append_of_found hp]
    rfl
  | _ =>
    have hnone : ((Value.document doc).place element r).value? = none := by rw [hp]; rfl
    rw [Value.place_append_of_not_found hnone, Place.read_of_free hfree hnone]
    rfl

theorem read_change_of_start {q : Path} (hfree : (doc.place c.path).fault? = none)
    (hsplit : c.path.segments = r ++ s :: ss) (hq : q.segments = r ++ t :: ts)
    (element : String) :
    (doc.change c).read q = ((((doc.reached r).getD (.document [])).alter s.name
      fun part => Value.changeFrom c.value part ss).place (Value.lastName element r)
        (t :: ts)).read := by
  have hreached := reached_change hfree hsplit
  have hfound : ((Value.document (doc.change c)).place element r).value? = _ :=
    (reached_eq _ element r).symm.trans hreached
  have hafter : ((Value.document (doc.change c)).place element r).fault? = none := by
    cases hp : (Value.document (doc.change c)).place element r with
    | found w => rfl
    | _ => rw [hp] at hfound; cases hfound
  rw [read_of_start hafter hq, hreached]
  rfl

theorem pads_of_fills {p q : Path} (hp : p.segments = r ++ s :: ss) (hq : q.segments = r ++ t :: ts)
    (h : ((doc.reached r).getD (.document [])).Fills s t) : doc.Pads p q t ts := by
  obtain ⟨items, i, j, hitems, hi, hj, hle, hlt⟩ := h
  cases hr : doc.reached r with
  | none => rw [hr] at hitems; cases hitems
  | some v =>
    rw [hr, Option.getD_some] at hitems
    subst hitems
    cases r with
    | nil => cases hr
    | cons u r =>
      exact ⟨⟨u, r⟩, s, ss, items, i, j, hp, hq, reached_eq_some_iff.mp hr, hi, hj, hle, hlt⟩

theorem Pads.exists_fills {p q : Path} (h : doc.Pads p q t ts) : ∃ r s ss,
    p.segments = r ++ s :: ss ∧ q.segments = r ++ t :: ts ∧
      ((doc.reached r).getD (.document [])).Fills s t := by
  obtain ⟨r, s, ss, items, i, j, hp, hq, hread, hi, hj, hle, hlt⟩ := h
  refine ⟨r.segments, s, ss, hp, hq, items, i, j, ?_, hi, hj, hle, hlt⟩
  rw [reached_eq_some_iff.mpr hread, Option.getD_some]

/-- Where something is found no array is filled up. -/
theorem not_pads_of_found {p q : Path} {found : Value} (h : doc.place p = .found found) :
    ¬ doc.Pads p q t ts := by
  rintro ⟨r, s, ss, items, i, j, hp, -, hread, hi, -, hle, hlt⟩
  obtain ⟨v, part, hv, hpart⟩ := exists_part_of_found h hp
  obtain rfl := Option.some.inj (hv.symm.trans (reached_eq_some_iff.mpr hread))
  obtain ⟨i', hi', hlen, -⟩ := Value.exists_position_of_part hpart
  obtain rfl := Option.some.inj (hi.symm.trans hi')
  omega

/-- A change is not seen apart from its path, but for the nulls that fill an array up. -/
theorem read_change_of_apart {q : Path} (hfree : (doc.place c.path).fault? = none)
    (hapart : c.path.Apart q) (h : ∀ t rest, ¬ doc.Pads c.path q t rest) :
    (doc.change c).read q = doc.read q := by
  obtain ⟨r, s, ss, t, ts, hp, hq, hne⟩ := Path.exists_parting hapart
  rw [read_change_of_start hfree hp hq "",
    read_of_start (free_of_start hfree hp "").1 hq]
  exact Value.read_alter_of_not_fills hne (fun hfills => h t ts (pads_of_fills hp hq hfills)) _ _ _

theorem read_change_of_pads {q : Path} (hfree : (doc.place c.path).fault? = none)
    (h : doc.Pads c.path q t ts) :
    doc.read q = .ok none ∧ (doc.change c).read q = Value.null.readFrom t.name ts := by
  obtain ⟨r, s, ss, hp, hq, hfills⟩ := h.exists_fills
  rw [read_change_of_start hfree hp hq "",
    read_of_start (free_of_start hfree hp "").1 hq]
  exact Value.read_of_fills hfills _ _ _

/-- A change adds the part that is next on its way to each container there. -/
theorem outline?_change (hfree : (doc.place c.path).fault? = none)
    (hp : c.path.segments = r ++ s :: ss)
    (hsome : ∀ part, ∃ w, Value.changeFrom c.value part ss = some w) :
    (doc.change c).outline? r = some (((doc.outline? r).getD (.names [])).add s) := by
  have htakes := Value.takes_of_free (free_of_start hfree hp "").2
  choose g hg using hsome
  obtain ⟨outline, hbefore, hafter⟩ := Value.outline?_alter htakes g
  rw [outline?, outline?, reached_change hfree hp, Option.bind_some]
  simp only [hg]
  rw [hafter]
  cases hr : doc.reached r with
  | none =>
    rw [hr] at hbefore
    cases hbefore
    rfl
  | some v =>
    rw [hr, Option.getD_some] at hbefore
    rw [Option.bind_some, hbefore]
    rfl

theorem put_change {p : Path} (hfree : (doc.place p).fault? = none) (value : Value) :
    doc.Put p value (doc.change ⟨p, some value⟩) where
  at_path := by
    rw [read_eq, Place.read_eq_found_iff]
    exact place_change_self hfree value
  apart _ hapart h := read_change_of_apart hfree hapart h
  padded q t rest h := by
    obtain ⟨hbefore, hafter⟩ := read_change_of_pads (c := ⟨p, some value⟩) hfree h
    refine ⟨hbefore, hafter.trans ?_⟩
    cases rest <;> rfl
  on_way _ _ rest hp := outline?_change (c := ⟨p, some value⟩) hfree hp fun part =>
    Value.changeFrom_isSome value part rest

end

/-- Writing fails just where something on the way refuses the next segment. Otherwise the value
is put at its path. -/
theorem write_puts (doc : Fields) (p : Path) (value : Value) :
    ((∃ fault, (doc.write p value).1 = .error fault) ↔ doc.Obstructs p) ∧
      ((doc.write p value).1 = .ok () → doc.Put p value (doc.write p value).2) := by
  rw [write_eq, ← fault?_iff_obstructs]
  cases hfree : (doc.place p).fault? with
  | some fault => exact ⟨by simp, nofun⟩
  | none => exact ⟨by simp, fun _ => put_change hfree value⟩

/-- A document is created behind the end of an array. The null before it is in the way of a
path that was just missing. -/
theorem write_below_new_item :
    let doc : Fields := [("a", .array [.int32 7])]
    let p : Path := ⟨⟨"a", by decide, by decide⟩,
      [⟨"2", by decide, by decide⟩, ⟨"x", by decide, by decide⟩]⟩
    let q : Path := ⟨⟨"a", by decide, by decide⟩,
      [⟨"1", by decide, by decide⟩, ⟨"x", by decide, by decide⟩]⟩
    let after : Fields := [("a", .array [.int32 7, .null, .document [("x", .int32 1)]])]
    ¬ doc.Obstructs p ∧ doc.write p (.int32 1) = (.ok (), after) ∧ doc.Put p (.int32 1) after ∧
      doc.read q = .ok none ∧ after.read q = .error ⟨"x", "1", .null⟩ := by
  intro doc p q after
  obtain ⟨hfails, hputs⟩ := write_puts doc p (.int32 1)
  have hput : doc.Put p (.int32 1) after := hputs rfl
  have hpads : doc.Pads p q ⟨"1", by decide, by decide⟩ [⟨"x", by decide, by decide⟩] :=
    ⟨⟨⟨"a", by decide, by decide⟩, []⟩, _, _, [.int32 7], 2, 1, rfl, rfl, rfl, rfl, rfl,
      by decide, by decide⟩
  have hopen : ¬ doc.Obstructs p := fun h => by
    obtain ⟨fault, hfault⟩ := hfails.mpr h
    cases hfault
  exact ⟨hopen, rfl, hput, hput.padded q _ _ hpads⟩

end Fields

end DocUpdate
