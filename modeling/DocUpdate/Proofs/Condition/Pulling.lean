import DocUpdate.Proofs.Condition.Comparison
import DocUpdate.Proofs.Condition.Reading
import DocUpdate.Proofs.Path.Text
import DocUpdate.Proofs.Value.Alignment
import DocUpdate.Proofs.Value.Names
import DocUpdate.Update.Items

/-!
# Pulling a value

A value with plain names is a condition that the items equal to it meet, so pulling it takes out
whatever pulling a list with it would. There is one exception: a regular expression that a field
of the value holds is matched with strings only, and no item equal to the value is taken out.
-/

namespace DocUpdate

/-- A name that is neither an operator nor a path of several segments. -/
def PlainName (name : String) : Prop :=
  name ≠ "" ∧ '.' ∉ name.toList ∧ startsWithDollar name = false

instance : DecidablePred PlainName := fun _ => inferInstanceAs (Decidable (_ ∧ _))

/-! ## Equal documents -/

section

variable {fields doc : Fields}

theorem Value.exists_document_of_equal {e : Value} (h : e.equal (document fields)) :
    ∃ doc, e = document doc ∧ cmpFields doc fields = .eq := by
  have hrank := Predicate.rank_of_equal h
  cases e
  case document doc =>
    refine ⟨doc, rfl, ?_⟩
    simpa only [equal, cmp, beq_iff_eq] using h
  all_goals cases hrank

theorem Fields.forall₂_of_cmp (h : Value.cmpFields doc fields = .eq) :
    List.Forall₂ (fun x y => x.1 = y.1 ∧ x.2.equal y.2) doc fields := by
  induction doc generalizing fields with
  | nil =>
    cases fields with
    | nil => exact .nil
    | cons => cases h
  | cons x doc ih =>
    cases fields with
    | nil => cases h
    | cons y fields =>
      rw [Value.cmpFields, Ordering.then_eq_eq, Ordering.then_eq_eq] at h
      obtain ⟨⟨hname, hvalue⟩, hrest⟩ := h
      rw [Std.LawfulEqOrd.compare_eq_iff_eq] at hname
      exact .cons ⟨hname, by rw [Value.equal, hvalue]; rfl⟩ (ih hrest)

theorem Fields.keys_of_cmp (h : Value.cmpFields doc fields = .eq) : doc.keys = fields.keys :=
  map_eq_of_forall₂ ((forall₂_of_cmp h).imp fun _ _ hfield => hfield.1)

/-- Equal documents have equal values at each name. -/
theorem Fields.exists_get?_of_cmp (h : Value.cmpFields doc fields = .eq)
    (hnames : fields.keys.Nodup) {field : String × Value} (hfield : field ∈ fields) :
    ∃ u, doc.get? field.1 = some u ∧ u.equal field.2 := by
  obtain ⟨x, hx, hname, hequal⟩ := exists_mem_of_forall₂ (forall₂_of_cmp h) hfield
  rw [← keys_of_cmp h] at hnames
  exact ⟨x.2, hname ▸ Value.get?_of_nodup hnames hx, hequal⟩

end

/-! ## Fields of a query -/

theorem Fields.readOrMissing_of_single {path : Path} (h : path.tail = []) (doc : Fields) :
    doc.readOrMissing path = doc.get? path.head.name := by
  unfold readOrMissing read
  rw [h]
  cases doc.get? path.head.name <;> rfl

namespace Predicate

theorem holds_eq_of_equal {u w : Value} (h : u.equal w) : (eq w).holds (some u) = true := by
  cases u
  case array items =>
    show ((Value.array items).equal w || _) = true
    rw [h]
    rfl
  all_goals exact h

/-- A pattern does not match a regular expression, nor does it match it as a value. -/
theorem holds_pattern_of_equal {u w : Value} (h : u.equal w) (hw : w.kind = .regex) (p : Pattern) :
    (pattern p).holds (some u) = false := by
  have hrank := rank_of_equal h
  cases w <;> cases hw
  cases u <;> first | rfl | cases hrank

/-- A field that is asked for a value has it unless the value is a regular expression. -/
theorem holds_readField {u w : Value} {predicates : List Predicate}
    (hread : readField w = .ok predicates)
    (hplain : ∀ fields, w = .document fields → hasOperators fields = false) (h : u.equal w) :
    predicates.all (·.holds (some u)) ↔ w.kind ≠ .regex := by
  rcases readField_cases hread with
    ⟨fields, rfl, hoperators, -⟩ | ⟨text, options, p, rfl, -, rfl⟩ | ⟨hkind, -, rfl⟩
  · rw [hplain fields rfl] at hoperators
    cases hoperators
  · have hkind : (Value.regex text options).kind = .regex := rfl
    simp [holds_pattern_of_equal h hkind, hkind]
  · simp [holds_eq_of_equal h, hkind]

end Predicate

namespace Query

variable {fields doc : Fields} {q : Query}

theorem holds_readEntry {entry : String × Value} {u : Value} (hread : readEntry entry = .ok q)
    (hname : PlainName entry.1)
    (hplain : ∀ inner, entry.2 = .document inner → hasOperators inner = false)
    (hget : doc.get? entry.1 = some u) (hequal : u.equal entry.2) :
    q.holds doc ↔ entry.2.kind ≠ .regex := by
  rw [readEntry_of_plain hname.2.2 entry.2] at hread
  obtain ⟨path, hpath, hread⟩ := bind_ok hread
  obtain ⟨predicates, hpredicates, hread⟩ := bind_ok hread
  cases hread
  obtain ⟨hhead, htail⟩ := Path.single_of_parse (mapError_ok.mp hpath) hname.2.1
  rw [holds_field, Fields.readOrMissing_of_single htail, hhead, hget]
  exact Predicate.holds_readField hpredicates hplain hequal

/-- A query for the fields of a document, asked of an equal one. -/
theorem holds_read (hread : read fields = .ok q)
    (hplain : ∀ field ∈ fields, PlainName field.1 ∧
      ∀ inner, field.2 = .document inner → hasOperators inner = false)
    (hnames : fields.keys.Nodup) (hequal : Value.cmpFields doc fields = .eq) :
    q.holds doc ↔ ∀ field ∈ fields, field.2.kind ≠ .regex := by
  obtain ⟨parts, hparts, rfl⟩ := map_ok hread
  rw [readEntries_eq_mapM] at hparts
  rw [holds_ofParts]
  have hfields : ∀ field ∈ fields, ∀ part, readEntry field = .ok part →
      (part.holds doc ↔ field.2.kind ≠ .regex) := by
    intro field hfield part hpart
    obtain ⟨u, hget, hu⟩ := Fields.exists_get?_of_cmp hequal hnames hfield
    exact holds_readEntry hpart (hplain field hfield).1 (hplain field hfield).2 hget hu
  have hall := mapM_ok_iff.mp hparts
  clear hparts hread hplain hnames hequal
  induction hall with
  | nil => simp
  | @cons field part rest parts hpart _ ih =>
    have hrest : parts.all (·.holds doc) ↔ ∀ field ∈ rest, field.2.kind ≠ .regex :=
      ih fun field hfield => hfields field (List.mem_cons_of_mem _ hfield)
    rw [List.all_cons, Bool.and_eq_true, hfields _ List.mem_cons_self _ hpart, hrest,
      List.forall_mem_cons]

end Query

/-! ## Conditions -/

/-- A field of the document is a regular expression. -/
def Value.HasPatternField (v : Value) : Prop :=
  ∃ fields, v = .document fields ∧ ∃ field ∈ fields, field.2.kind = .regex

theorem Value.not_hasPatternField_document {fields : Fields} :
    ¬ (document fields).HasPatternField ↔ ∀ field ∈ fields, field.2.kind ≠ .regex := by
  constructor
  · exact fun h field hfield hkind => h ⟨fields, rfl, field, hfield, hkind⟩
  · rintro h ⟨_, ⟨⟩, field, hfield, hkind⟩
    exact h field hfield hkind

theorem hasOperators_of_plain {fields : Fields} (h : ∀ field ∈ fields, PlainName field.1) :
    hasOperators fields = false := by
  cases fields with
  | nil => rfl
  | cons first rest => exact (h first List.mem_cons_self).2.2

namespace Condition

variable {v e : Value} {c : Condition}

/-- A document with plain names is read as a query for its fields. -/
theorem parse_of_plain {fields : Fields} (h : ∀ field ∈ fields, PlainName field.1)
    (hne : fields ≠ []) : parse (.document fields) = (Query.read fields).map query := by
  rw [parse_document hne, if_neg]
  intro hall
  obtain ⟨first, rest, rfl⟩ := List.exists_cons_of_ne_nil hne
  have hmem : first.1 ∈ predicateNames :=
    List.contains_iff_mem.mp (List.all_eq_true.mp hall _ List.mem_cons_self)
  have hoperators : ∀ name ∈ predicateNames, startsWithDollar name = true := by decide
  have hdollar := hoperators _ hmem
  rw [(h first List.mem_cons_self).2.2] at hdollar
  cases hdollar

theorem matches_document_of_equal {fields : Fields} (hne : fields ≠ [])
    (hplain : ∀ field ∈ fields, PlainName field.1 ∧
      ∀ inner, field.2 = .document inner → hasOperators inner = false)
    (hkeys : fields.keys.Nodup) (hparse : parse (.document fields) = .ok c)
    (hequal : e.equal (.document fields)) :
    c.matches e ↔ ∀ field ∈ fields, field.2.kind ≠ .regex := by
  rw [parse_of_plain (fun field hfield => (hplain field hfield).1) hne] at hparse
  obtain ⟨q, hread, rfl⟩ := map_ok hparse
  obtain ⟨doc, rfl, hcmp⟩ := Value.exists_document_of_equal hequal
  exact Query.holds_read hread hplain hkeys hcmp

theorem matches_of_equal (hnames : ∀ name, v.HasName name → PlainName name)
    (hdistinct : v.DistinctNames) (hparse : parse v = .ok c) (hequal : e.equal v) :
    c.matches e ↔ ¬ v.HasPatternField := by
  cases v
  case document fields =>
    rw [Value.not_hasPatternField_document]
    by_cases hne : fields = []
    · subst hne
      cases hparse
      exact iff_of_true hequal (by simp)
    · refine matches_document_of_equal hne (fun field hfield => ⟨hnames _ (.here hfield), ?_⟩)
        (Value.distinctNames_document.mp hdistinct).1 hparse hequal
      rintro inner hinner
      apply hasOperators_of_plain
      intro name hname
      exact hnames _ (.field hfield (hinner ▸ .here hname))
  case regex text options =>
    obtain ⟨p, -, hp⟩ := bind_ok hparse
    cases hp
    have hmatches : (pattern p (.regex text options)).matches e = true := by
      rw [Condition.matches, hequal, Bool.or_true]
    exact iff_of_true hmatches (by rintro ⟨_, ⟨⟩, -⟩)
  all_goals
    cases hparse
    exact iff_of_true hequal (by rintro ⟨_, ⟨⟩, -⟩)

/-- Pulling a value with plain names takes out the items equal to it, or none of them if a field
of it is a regular expression. -/
theorem pull_of_plain_names (hnames : ∀ name, v.HasName name → PlainName name)
    (hdistinct : v.DistinctNames) (hparse : parse v = .ok c) :
    (∀ e, e.equal v → (c.matches e ↔ ¬ v.HasPatternField)) ∧
      (¬ v.HasPatternField → ∀ items, (Items.pull c items).Sublist (Items.pullAll [v] items)) := by
  refine ⟨fun e hequal => matches_of_equal hnames hdistinct hparse hequal, ?_⟩
  intro hpattern items
  apply List.monotone_filter_right
  intro item hkept
  rw [Bool.not_eq_true', ← Bool.not_eq_true] at hkept ⊢
  rw [List.any_cons, List.any_nil, Bool.or_false]
  exact fun hequal => hkept ((matches_of_equal hnames hdistinct hparse hequal).mpr hpattern)

/-- A number, an array and a document in a document. -/
theorem pull_of_nested_value :
    let v : Value := .document
      [("count", .int32 2), ("tags", .array [.null]), ("size", .document [("h", .null)])]
    let e : Value := .document
      [("count", .int64 2), ("tags", .array [.null]), ("size", .document [("h", .null)])]
    ∃ c, parse v = .ok c ∧ e.equal v ∧ c.matches e ∧
      ∀ items, (Items.pull c items).Sublist (Items.pullAll [v] items) := by
  intro v e
  have hnames : ∀ name, v.HasName name → PlainName name := by
    have hscalar (w : Value) (hw : w.hasParts = false) (name : String) : w.HasName name ↔ False :=
      iff_false_intro (Value.not_hasName_of_scalar hw)
    intro name hname
    simp only [v, Value.hasName_document, Value.hasName_array, hscalar (.int32 2) rfl,
      hscalar .null rfl, List.mem_cons, List.not_mem_nil, or_false, exists_eq_or_imp,
      exists_eq_left] at hname
    rcases hname with rfl | rfl | rfl | rfl <;> decide
  have hdistinct : v.DistinctNames := by
    have hnull : Value.null.DistinctNames := .plain rfl
    have htags : (Value.array [.null]).DistinctNames := .array (by simpa using hnull)
    have hcount : (Value.int32 2).DistinctNames := .plain rfl
    simp [v, Value.distinctNames_document, Fields.keys, hcount, htags, hnull]
  have hpattern : ¬ v.HasPatternField := by
    rw [Value.not_hasPatternField_document]
    simp [Value.kind]
  have hequal : e.equal v := by decide +kernel
  have hparse : parse v = .ok _ := rfl
  obtain ⟨hmatches, hpull⟩ := pull_of_plain_names hnames hdistinct hparse
  exact ⟨_, rfl, hequal, (hmatches e hequal).mpr hpattern, hpull hpattern⟩

/-- A pattern in a field is not found where the same pattern is stored. -/
theorem pull_misses_stored_pattern :
    let v : Value := .document [("a", .regex "x" "")]
    (∀ name, v.HasName name → PlainName name) ∧ v.DistinctNames ∧ v.equal v ∧
      ∃ c, parse v = .ok c ∧ c.matches v = false ∧
        Items.pull c [v] = [v] ∧ Items.pullAll [v] [v] = [] := by
  intro v
  have hnames : ∀ name, v.HasName name → PlainName name := by
    have hpattern (name : String) : ¬ (Value.regex "x" "").HasName name :=
      Value.not_hasName_of_scalar rfl
    intro name hname
    simp only [v, Value.hasName_document, hpattern, List.mem_singleton, exists_eq_left,
      or_false] at hname
    subst hname
    decide
  have hdistinct : v.DistinctNames := by
    have hpattern : (Value.regex "x" "").DistinctNames := .plain rfl
    simp [v, Value.distinctNames_document, Fields.keys, hpattern]
  have hparse : parse v = .ok _ := rfl
  exact ⟨hnames, hdistinct, by decide +kernel, _, hparse, rfl, rfl, rfl⟩

end Condition

end DocUpdate
