import DocUpdate.Proofs.Path.Text
import DocUpdate.Proofs.Update.Parsed

/-!
# Which update documents are accepted

An update document is accepted exactly if it is well formed: there is something in it, its keys
are operators, its modifiers are documents, the paths and operands of its entries are, and no
two of the paths that are claimed meet. Each entry becomes one mutation.
-/

namespace DocUpdate

/-! ## Operators -/

theorem Operator.ofName?_eq_some_iff {key : String} {op : Operator} :
    ofName? key = some op ↔ op.name = key := by
  constructor
  · intro h
    simpa using List.find?_some h
  · rintro rfl
    exact ofName?_name op

theorem Operator.name_injective {a b : Operator} (h : a.name = b.name) : a = b := by
  have ha := ofName?_name a
  rw [h, ofName?_name b] at ha
  exact (Option.some.inj ha).symm

theorem Action.readRename_text {source target : Path} {operand : Value}
    (h : readRename source operand = .ok target) :
    ∃ text, operand = .string text ∧ Path.parse text = .ok target := by
  unfold readRename at h
  split at h
  · rename_i text
    obtain ⟨read, hread, h⟩ := bind_ok h
    split at h
    · cases h
    · split at h
      · cases h
      · cases h
        exact ⟨text, rfl, mapError_ok.mp hread⟩
  · cases h

/-! ## Entries -/

/-- An operator, a path and an operand, before any of them is read. -/
structure Entry where
  key : String
  path : String
  operand : Value

namespace Entry

/-- The paths that an entry claims. A renamed field has two. -/
def claims (e : Entry) : List String :=
  match e.operand with
  | .string target => if e.key = Operator.rename.name then [e.path, target] else [e.path]
  | _ => [e.path]

/-- The mutation has the operator and the path of the entry, and does what its operand says. -/
structure Gives (e : Entry) (m : Mutation) : Prop where
  operator : m.action.operator.name = e.key
  path : Path.parse e.path = .ok m.path
  text : m.path.text = e.path
  operand : Action.read m.action.operator m.path e.operand = .ok m.action

end Entry

/-- The entries of the modifiers, in document order. -/
def Fields.entries (spec : Fields) : List Entry :=
  spec.flatMap fun field =>
    match field.2 with
    | .document fields => fields.map fun inner => ⟨field.1, inner.1, inner.2⟩
    | _ => []

/-- Both texts are paths, and one path is the start of the other. -/
def Path.TextsMeet (a b : String) : Prop :=
  ∃ p q, parse a = .ok p ∧ parse b = .ok q ∧
    (p.segments <+: q.segments ∨ q.segments <+: p.segments)

/-- What an update document has to be like. -/
structure Fields.WellFormed (spec : Fields) : Prop where
  ne_nil : spec ≠ []
  operators : ∀ field ∈ spec, ∃ op : Operator, op.name = field.1
  modifiers : ∀ field ∈ spec, ∃ fields, field.2 = .document fields
  paths : ∀ e ∈ spec.entries, ∃ p, Path.parse e.path = .ok p
  operands : ∀ e ∈ spec.entries, ∀ (op : Operator) (p : Path),
    op.name = e.key → Path.parse e.path = .ok p → ∃ action, Action.read op p e.operand = .ok action
  claims : (spec.entries.flatMap Entry.claims).Pairwise fun a b => ¬ Path.TextsMeet a b

theorem Fields.entries_cons (key : String) (fields rest : Fields) :
    entries ((key, .document fields) :: rest) =
      (fields.map fun inner => ⟨key, inner.1, inner.2⟩) ++ entries rest := rfl

theorem Fields.mem_entries {spec : Fields} {e : Entry} :
    e ∈ spec.entries ↔ ∃ (key : String) (fields : Fields), (key, .document fields) ∈ spec ∧
      ∃ inner ∈ fields, e = ⟨key, inner.1, inner.2⟩ := by
  unfold entries
  rw [List.mem_flatMap]
  constructor
  · rintro ⟨⟨key, modifier⟩, hfield, he⟩
    cases modifier
    case document fields =>
      obtain ⟨inner, hinner, rfl⟩ := List.mem_map.mp he
      exact ⟨key, fields, hfield, inner, hinner, rfl⟩
    all_goals cases he
  · rintro ⟨key, fields, hfield, inner, hinner, rfl⟩
    exact ⟨_, hfield, List.mem_map.mpr ⟨inner, hinner, rfl⟩⟩

namespace Entry

variable {e : Entry} {m : Mutation}

theorem gives_of_read {op : Operator} {p : Path} {action : Action} (hop : op.name = e.key)
    (hp : Path.parse e.path = .ok p) (h : Action.read op p e.operand = .ok action) :
    e.Gives ⟨p, action⟩ := by
  have haction := Action.operator_of_read h
  refine ⟨?_, hp, Path.text_of_parse hp, ?_⟩
  · rw [← hop, haction]
  · rwa [haction]

theorem Gives.read (h : e.Gives m) {op : Operator} {p : Path} (hop : op.name = e.key)
    (hp : Path.parse e.path = .ok p) : Action.read op p e.operand = .ok m.action := by
  have hpath := h.path
  rw [hp] at hpath
  cases hpath
  rw [Operator.name_injective (hop.trans h.operator.symm)]
  exact h.operand

/-- The paths that a mutation claims are those that its entry claims. -/
theorem Gives.claims (h : e.Gives m) :
    List.Forall₂ (fun text p => Path.parse text = .ok p) e.claims m.claims := by
  by_cases hkey : e.key = Operator.rename.name
  · have hop : m.action.operator = .rename := Operator.name_injective (h.operator.trans hkey)
    cases ha : m.action <;> rw [ha] at hop <;> cases hop
    rename_i target
    have hread := h.read hkey.symm h.path
    rw [ha] at hread
    obtain ⟨text, htext, htarget⟩ := Action.readRename_text (Action.rename_of_read hread)
    simp only [Entry.claims, htext, hkey, if_true, Mutation.claims, ha]
    exact .cons h.path (.cons htarget .nil)
  · have hmine : e.claims = [e.path] := by
      unfold Entry.claims
      split
      · rw [if_neg hkey]
      · rfl
    have htheirs : m.claims = [m.path] := by
      unfold Mutation.claims
      split
      · rename_i target ha
        exact absurd (h.operator.symm.trans (by rw [ha]; rfl)) hkey
      · rfl
    rw [hmine, htheirs]
    exact .cons h.path .nil

theorem claims_of_gives {es : List Entry} {ms : List Mutation} (h : List.Forall₂ Gives es ms) :
    List.Forall₂ (fun text p => Path.parse text = .ok p) (es.flatMap Entry.claims)
      (ms.flatMap Mutation.claims) :=
  List.rel_flatMap h fun _ _ hm => hm.claims

end Entry

/-! ## Claimed paths -/

namespace Path

theorem not_textsMeet_iff {a b : String} {p q : Path} (ha : parse a = .ok p)
    (hb : parse b = .ok q) : ¬ TextsMeet a b ↔ p.Apart q := by
  rw [apart_iff, ← not_or, not_iff_not]
  constructor
  · rintro ⟨p', q', hp, hq, h⟩
    rw [ha] at hp
    rw [hb] at hq
    cases hp
    cases hq
    exact h
  · intro h
    exact ⟨p, q, ha, hb, h⟩

theorem eq_map_text {texts : List String} {ps : List Path}
    (h : List.Forall₂ (fun text p => parse text = .ok p) texts ps) :
    texts = ps.map text ∧ ∀ p ∈ ps, parse p.text = .ok p := by
  induction h with
  | nil => simp
  | cons hp _ ih =>
    have htext := text_of_parse hp
    refine ⟨by rw [List.map_cons, htext, ← ih.1], List.forall_mem_cons.mpr ⟨?_, ih.2⟩⟩
    rwa [htext]

theorem pairwise_texts_iff {texts : List String} {ps : List Path}
    (h : List.Forall₂ (fun text p => parse text = .ok p) texts ps) :
    (texts.Pairwise fun a b => ¬ TextsMeet a b) ↔ ps.Pairwise Apart := by
  obtain ⟨rfl, hparse⟩ := eq_map_text h
  rw [List.pairwise_map]
  exact List.Pairwise.iff_of_mem fun hp hq => not_textsMeet_iff (hparse _ hp) (hparse _ hq)

end Path

/-- The two paths of a rename are apart. -/
theorem Mutation.RenamesTop.claims_apart {m : Mutation} (h : m.RenamesTop) :
    m.claims.Pairwise Path.Apart := by
  unfold claims
  split
  · rename_i target ha
    simpa using (h target ha).2.2
  · simp

/-! ## Reading entries -/

namespace UpdateSpec

theorem readEntry_ok_iff {op : Operator} {field : String × Value} {m : Mutation} :
    readEntry op field = .ok m ↔ Entry.Gives ⟨op.name, field.1, field.2⟩ m := by
  constructor
  · intro h
    obtain ⟨path, hpath, h⟩ := bind_ok h
    obtain ⟨action, haction, h⟩ := bind_ok h
    cases h
    exact Entry.gives_of_read rfl (mapError_ok.mp hpath) haction
  · intro h
    have hpath : Path.ofText field.1 = .ok m.path := mapError_ok.mpr h.path
    have haction : Action.read op m.path field.2 = .ok m.action := h.read rfl h.path
    simp only [readEntry, hpath, haction, bind, Except.bind]
    rfl

theorem readModifier_ok_iff {field : String × Value} {ms : List Mutation} :
    readModifier field = .ok ms ↔
      ∃ (op : Operator) (fields : Fields), op.name = field.1 ∧ field.2 = .document fields ∧
        fields.mapM (readEntry op) = .ok ms := by
  unfold readModifier
  constructor
  · intro h
    split at h
    · cases h
    · rename_i op hop
      split at h
      · rename_i fields hfields
        exact ⟨op, fields, Operator.ofName?_eq_some_iff.mp hop, hfields, h⟩
      · cases h
  · rintro ⟨op, fields, hop, hfields, h⟩
    rw [Operator.ofName?_eq_some_iff.mpr hop, hfields]
    exact h

theorem parse_eq_ok_iff {spec : Fields} {us : UpdateSpec} :
    parse spec = .ok us ↔
      spec ≠ [] ∧ (∃ groups, spec.mapM readModifier = .ok groups ∧ us.mutations = groups.flatten) ∧
        us.mutations.Pairwise Mutation.ApartFrom := by
  constructor
  · intro h
    refine ⟨?_, (parse_ok h).1, (checkConflicts_ok_iff.mp (parse_ok h).2).2⟩
    rintro rfl
    cases h
  · rintro ⟨hne, ⟨groups, hgroups, hus⟩, hapart⟩
    have hkeys : (spec.keys.find? fun key => (Operator.ofName? key).isNone) = none := by
      rw [List.find?_eq_none]
      intro key hkey
      obtain ⟨field, hfield, rfl⟩ := List.mem_map.mp hkey
      obtain ⟨ms, hms⟩ := exists_mapM_ok_iff.mp ⟨groups, hgroups⟩ field hfield
      obtain ⟨op, -, hop, -⟩ := readModifier_ok_iff.mp hms
      simp [← hop, Operator.ofName?_name]
    have hcheck : checkConflicts [] us.mutations = .ok () :=
      checkConflicts_ok_iff.mpr ⟨by simp, hapart⟩
    have hempty : spec.isEmpty = false := by simpa using hne
    obtain ⟨mutations⟩ := us
    subst hus
    simp only [parse, hkeys, hempty, hgroups, hcheck, bind, Except.bind]
    rfl

/-- Each entry gives one mutation, in document order. -/
theorem gives_of_mapM {spec : Fields} {groups : List (List Mutation)}
    (h : spec.mapM readModifier = .ok groups) :
    List.Forall₂ Entry.Gives spec.entries groups.flatten := by
  have hread := mapM_ok_iff.mp h
  clear h
  induction hread with
  | nil => exact .nil
  | @cons field ms rest _ hfield _ ih =>
    obtain ⟨op, fields, hop, hfields, hms⟩ := readModifier_ok_iff.mp hfield
    obtain ⟨key, modifier⟩ := field
    subst hop hfields
    rw [Fields.entries_cons, List.flatten_cons]
    refine List.rel_append ?_ ih
    rw [List.forall₂_map_left_iff]
    exact (mapM_ok_iff.mp hms).imp fun _ _ => readEntry_ok_iff.mp

/-- Everything can be read if every key is an operator, every modifier a document and every
entry gives a mutation. -/
theorem exists_groups_iff {spec : Fields} :
    (∃ groups, spec.mapM readModifier = .ok groups) ↔
      (∀ field ∈ spec, ∃ op : Operator, op.name = field.1) ∧
        (∀ field ∈ spec, ∃ fields, field.2 = .document fields) ∧
        ∀ e ∈ spec.entries, ∃ m, e.Gives m := by
  rw [exists_mapM_ok_iff]
  constructor
  · intro h
    refine ⟨fun field hfield => ?_, fun field hfield => ?_, fun e he => ?_⟩
    · obtain ⟨ms, hms⟩ := h field hfield
      obtain ⟨op, -, hop, -⟩ := readModifier_ok_iff.mp hms
      exact ⟨op, hop⟩
    · obtain ⟨ms, hms⟩ := h field hfield
      obtain ⟨-, fields, -, hfields, -⟩ := readModifier_ok_iff.mp hms
      exact ⟨fields, hfields⟩
    · obtain ⟨key, fields, hfield, inner, hinner, rfl⟩ := Fields.mem_entries.mp he
      obtain ⟨ms, hms⟩ := h _ hfield
      obtain ⟨op, read, hop, hread, hfields⟩ := readModifier_ok_iff.mp hms
      cases hread
      subst hop
      obtain ⟨m, hm⟩ := exists_mapM_ok_iff.mp ⟨ms, hfields⟩ inner hinner
      exact ⟨m, readEntry_ok_iff.mp hm⟩
  · rintro ⟨hops, hmods, hentries⟩ ⟨key, modifier⟩ hfield
    obtain ⟨op, rfl⟩ := hops _ hfield
    obtain ⟨fields, rfl⟩ := hmods _ hfield
    obtain ⟨ms, hms⟩ : ∃ ms, fields.mapM (readEntry op) = .ok ms := by
      refine exists_mapM_ok_iff.mpr fun inner hinner => ?_
      obtain ⟨m, hm⟩ := hentries _ (Fields.mem_entries.mpr ⟨_, fields, hfield, inner, hinner, rfl⟩)
      exact ⟨m, readEntry_ok_iff.mpr hm⟩
    exact ⟨ms, readModifier_ok_iff.mpr ⟨op, fields, rfl, rfl, hms⟩⟩

/-! ## Update documents -/

variable {spec : Fields} {us : UpdateSpec}

theorem gives_of_parse (h : parse spec = .ok us) :
    List.Forall₂ Entry.Gives spec.entries us.mutations := by
  obtain ⟨⟨groups, hgroups, hus⟩, -⟩ := parse_ok h
  rw [hus]
  exact gives_of_mapM hgroups

theorem wellFormed_of_parse (h : parse spec = .ok us) : spec.WellFormed := by
  obtain ⟨hne, ⟨groups, hgroups, -⟩, hapart⟩ := parse_eq_ok_iff.mp h
  obtain ⟨hops, hmods, hentries⟩ := exists_groups_iff.mp ⟨groups, hgroups⟩
  refine ⟨hne, hops, hmods, fun e he => ?_, fun e he op p hop hp => ?_, ?_⟩
  · obtain ⟨m, hm⟩ := hentries e he
    exact ⟨m.path, hm.path⟩
  · obtain ⟨m, hm⟩ := hentries e he
    exact ⟨m.action, hm.read hop hp⟩
  · have hclaims := Entry.claims_of_gives (gives_of_parse h)
    rw [Path.pairwise_texts_iff hclaims, List.pairwise_flatMap]
    exact ⟨fun m hm => (renamesTop_of_parse h hm).claims_apart, hapart⟩

theorem exists_parse_of_wellFormed (h : spec.WellFormed) : ∃ us, parse spec = .ok us := by
  obtain ⟨groups, hgroups⟩ : ∃ groups, spec.mapM readModifier = .ok groups := by
    refine exists_groups_iff.mpr ⟨h.operators, h.modifiers, fun e he => ?_⟩
    obtain ⟨p, hp⟩ := h.paths e he
    obtain ⟨op, hop⟩ : ∃ op : Operator, op.name = e.key := by
      obtain ⟨key, fields, hfield, inner, -, rfl⟩ := Fields.mem_entries.mp he
      exact h.operators _ hfield
    obtain ⟨action, haction⟩ := h.operands e he op p hop hp
    exact ⟨⟨p, action⟩, Entry.gives_of_read hop hp haction⟩
  have hclaims := Entry.claims_of_gives (gives_of_mapM hgroups)
  have hapart := (Path.pairwise_texts_iff hclaims).mp h.claims
  rw [List.pairwise_flatMap] at hapart
  exact ⟨⟨groups.flatten⟩, parse_eq_ok_iff.mpr ⟨h.ne_nil, ⟨groups, hgroups, rfl⟩, hapart.2⟩⟩

/-- Exactly the well-formed update documents are accepted, and then each entry gives one
mutation, in document order. -/
theorem parse_ok_iff_wellFormed (spec : Fields) :
    ((∃ us, parse spec = .ok us) ↔ spec.WellFormed) ∧
      ∀ us, parse spec = .ok us → List.Forall₂ Entry.Gives spec.entries us.mutations :=
  ⟨⟨fun ⟨_, h⟩ => wellFormed_of_parse h, exists_parse_of_wellFormed⟩, fun _ => gives_of_parse⟩

/-- Setting a part and renaming a field beside it is well formed. Renaming the field that holds
the part is not. -/
theorem set_and_rename_well_formed :
    (∃ us, parse [("$set", .document [("a.b", .int32 1)]),
        ("$rename", .document [("c", .string "d")])] = .ok us ∧
      Fields.WellFormed [("$set", .document [("a.b", .int32 1)]),
        ("$rename", .document [("c", .string "d")])] ∧
      List.Forall₂ Entry.Gives
        [⟨"$set", "a.b", .int32 1⟩, ⟨"$rename", "c", .string "d"⟩] us.mutations) ∧
    ¬ Fields.WellFormed [("$set", .document [("a.b", .int32 1)]),
        ("$rename", .document [("c", .string "a")])] := by
  constructor
  · have h : parse [("$set", .document [("a.b", .int32 1)]),
        ("$rename", .document [("c", .string "d")])] = .ok _ := rfl
    exact ⟨_, h, (parse_ok_iff_wellFormed _).1.mp ⟨_, h⟩, (parse_ok_iff_wellFormed _).2 _ h⟩
  · rw [← (parse_ok_iff_wellFormed _).1]
    have h : parse [("$set", .document [("a.b", .int32 1)]),
        ("$rename", .document [("c", .string "a")])] = .error _ := rfl
    rintro ⟨us, hus⟩
    rw [h] at hus
    cases hus

end UpdateSpec

end DocUpdate
