import Mathlib.Data.List.ReduceOption
import DocUpdate.Condition.Reader
import DocUpdate.Proofs.Condition.Parts
import DocUpdate.Proofs.Reading
import DocUpdate.Proofs.Value.Parts

/-!
# Conditions are read entry by entry

Each entry of a document of operators, each entry of a query and each clause is read on its own.
Only a pattern looks at the other entries, for its options.
-/

namespace DocUpdate

theorem ne_of_plain {name operator : String} (h : startsWithDollar name = false)
    (hoperator : startsWithDollar operator = true) : name ≠ operator := by
  rintro rfl
  rw [h] at hoperator
  cases hoperator

theorem Pattern.ofCondition_ok {text options : String} {p : Pattern} :
    ofCondition text options = .ok p ↔ compile text options = .ok p := mapError_ok

namespace Predicate

/-- Reads one entry in the company of all fields. Options alone are no predicate. -/
def readEntry (fields : Fields) (entry : String × Value) :
    Except ConditionFault (Option Predicate) :=
  if entry.1 = "$not" then (readNegation entry.2).map fun inner => some (negation inner)
  else readSimple fields entry.1 entry.2

theorem readEntry_of_plain {name : String} (h : startsWithDollar name = false) (fields : Fields)
    (v : Value) : readEntry fields (name, v) = .error (.unknownPredicate name) := by
  unfold readEntry
  rw [if_neg (ne_of_plain h (by decide))]
  dsimp only
  unfold readSimple
  split
  all_goals first | rfl | cases h

theorem readEntries_cons (fields : Fields) (entry : String × Value)
    (rest : List (String × Value)) : readEntries fields (entry :: rest) = do
      let predicate ← readEntry fields entry
      let predicates ← readEntries fields rest
      return predicate.toList ++ predicates := by
  unfold readEntry
  rw [readEntries]
  split <;> rfl

theorem readEntries_eq_mapM (fields : Fields) (entries : List (String × Value)) :
    readEntries fields entries = (entries.mapM (readEntry fields)).map List.reduceOption := by
  induction entries with
  | nil => rfl
  | cons entry rest ih =>
    rw [readEntries_cons, ih, List.mapM_cons]
    cases readEntry fields entry with
    | error fault => rfl
    | ok predicate =>
      cases rest.mapM (readEntry fields) with
      | error fault => rfl
      | ok predicates => cases predicate <;> rfl

theorem readNegation_document {fields : Fields} (h : fields ≠ []) :
    readNegation (.document fields) = readAll fields := by
  obtain ⟨first, rest, rfl⟩ := List.exists_cons_of_ne_nil h
  rw [readNegation, readAll]

section

variable {fields : Fields} {entry : String × Value} {v : Value} {p : Predicate}
  {ps : List Predicate}

theorem readAll_ok (h : readAll fields = .ok ps) : ps ≠ [] ∧
    ∃ found, fields.mapM (readEntry fields) = .ok found ∧ found.reduceOption = ps := by
  obtain ⟨read, hread, h⟩ := bind_ok h
  rw [readEntries_eq_mapM] at hread
  obtain ⟨found, hfound, rfl⟩ := map_ok hread
  split at h
  · cases h
  · rename_i hempty
    cases h
    exact ⟨mt List.isEmpty_iff.mpr hempty, found, hfound, rfl⟩

/-- A predicate that is read comes from one of the entries. -/
theorem exists_entry_of_readAll (h : readAll fields = .ok ps) (hp : p ∈ ps) :
    ∃ entry ∈ fields, readEntry fields entry = .ok (some p) := by
  obtain ⟨-, found, hfound, rfl⟩ := readAll_ok h
  exact mem_of_mapM_ok hfound (List.reduceOption_mem_iff.mp hp)

/-- Only what is negated is a predicate with predicates in it. -/
theorem readEntry_ok (h : readEntry fields entry = .ok (some p)) :
    (∃ inner, entry.1 = "$not" ∧ readNegation entry.2 = .ok inner ∧ p = negation inner) ∨
      (entry.1 ≠ "$not" ∧ readSimple fields entry.1 entry.2 = .ok (some p)) := by
  unfold readEntry at h
  split at h
  · rename_i hname
    obtain ⟨inner, hinner, hp⟩ := map_ok h
    cases hp
    exact .inl ⟨inner, hname, hinner, rfl⟩
  · rename_i hname
    exact .inr ⟨hname, h⟩

/-- A field is asked for operators, for a match of a pattern, or for a value. -/
theorem readField_cases (h : readField v = .ok ps) :
    (∃ fields, v = .document fields ∧ hasOperators fields ∧ readAll fields = .ok ps) ∨
    (∃ text options p, v = .regex text options ∧ Pattern.compile text options = .ok p ∧
      ps = [pattern p]) ∨
    (v.kind ≠ .regex ∧ (∀ fields, v = .document fields → ¬ hasOperators fields) ∧ ps = [eq v]) := by
  cases v
  case document fields =>
    rw [readField] at h
    split at h
    · rename_i hoperators
      exact .inl ⟨fields, rfl, hoperators, h⟩
    · rename_i hoperators
      cases h
      exact .inr (.inr ⟨nofun, fun _ hfields => Value.document.inj hfields ▸ hoperators, rfl⟩)
  case regex text options =>
    obtain ⟨p, hp, h⟩ := bind_ok h
    cases h
    exact .inr (.inl ⟨text, options, p, rfl, Pattern.ofCondition_ok.mp hp, rfl⟩)
  all_goals
    cases h
    exact .inr (.inr ⟨nofun, nofun, rfl⟩)

/-- The text and the options that a document of operators gives for its pattern. -/
inductive PatternSource (fields : Fields) : String → String → Prop where
  | string {text : String} {options : Option String} (hoptions : optionsOf fields = .ok options)
      (h : fields.get? "$regex" = some (.string text)) : PatternSource fields text (options.getD "")
  | regex {text own : String} {options : Option String} (hoptions : optionsOf fields = .ok options)
      (h : fields.get? "$regex" = some (.regex text own)) :
      PatternSource fields text (options.getD own)

theorem readPattern_ok (h : readPattern fields = .ok p) : ∃ text options pat,
    PatternSource fields text options ∧ Pattern.compile text options = .ok pat ∧
      p = pattern pat := by
  obtain ⟨options, hoptions, h⟩ := bind_ok h
  split at h
  · rename_i text htext
    obtain ⟨pat, hpat, h⟩ := bind_ok h
    cases h
    exact ⟨text, _, pat, .string hoptions htext, Pattern.ofCondition_ok.mp hpat, rfl⟩
  · rename_i text own htext
    obtain ⟨pat, hpat, h⟩ := bind_ok h
    cases h
    exact ⟨text, _, pat, .regex hoptions htext, Pattern.ofCondition_ok.mp hpat, rfl⟩
  · cases h

/-- A pattern that is asked for is compiled. -/
theorem readPattern_of_source {text options : String} (hsource : PatternSource fields text options)
    (h : readPattern fields = .ok p) :
    ∃ pat, Pattern.compile text options = .ok pat ∧ p = pattern pat := by
  obtain ⟨read, hread, h⟩ := bind_ok h
  cases hsource with
  | string hoptions htext | regex hoptions htext =>
    cases hoptions.symm.trans hread
    rw [htext] at h
    obtain ⟨pat, hpat, h⟩ := bind_ok h
    cases h
    exact ⟨pat, Pattern.ofCondition_ok.mp hpat, rfl⟩

theorem listOperand_ok {name : String} {items : List Value} (h : listOperand name v = .ok items) :
    v = .array items := by
  cases v <;> cases h
  rfl

/-- A predicate that compares with a single value, or asks whether there is a value. -/
def isComparison : Predicate → Bool
  | eq _ | ne _ | gt _ | gte _ | lt _ | lte _ | present _ => true
  | oneOf _ | noneOf _ | pattern _ | negation _ => false

/-- The operators that are read to such predicates. -/
def comparisonNames : List String :=
  ["$eq", "$ne", "$gt", "$gte", "$lt", "$lte", "$exists"]

/-- An operator that holds no operators asks for a pattern, for a member of a list, or for a
comparison. Options stand for nothing by themselves. -/
theorem readSimple_ok {name : String} {found : Option Predicate}
    (h : readSimple fields name v = .ok found) :
    (name = "$regex" ∧ ∃ p, readPattern fields = .ok p ∧ found = some p) ∨
    (name = "$options" ∧ found = none) ∨
    (∃ items, v = .array items ∧ (name = "$in" ∧ found = some (oneOf items) ∨
      name = "$nin" ∧ found = some (noneOf items))) ∨
    (name ∈ comparisonNames ∧ ∃ p, found = some p ∧ p.isComparison = true) := by
  unfold readSimple at h
  split at h
  case h_7 | h_8 =>
    obtain ⟨items, hitems, rfl⟩ := map_ok h
    exact .inr (.inr (.inl ⟨items, listOperand_ok hitems, by simp⟩))
  case h_9 =>
    split at h
    · cases h
      exact .inr (.inr (.inr ⟨by decide, _, rfl, rfl⟩))
    · cases h
  case h_10 =>
    obtain ⟨p, hp, rfl⟩ := map_ok h
    exact .inl ⟨rfl, p, hp, rfl⟩
  case h_11 =>
    split at h
    · cases h
      exact .inr (.inl ⟨rfl, rfl⟩)
    · cases h
  case h_12 => cases h
  all_goals
    cases h
    exact .inr (.inr (.inr ⟨by decide, _, rfl, rfl⟩))

/-- What holds of what is negated as soon as it holds of what is negated inside it. -/
theorem readNegation_induction {motive : Value → List Predicate → Prop}
    (regex : ∀ {text options : String} {p : Pattern}, Pattern.compile text options = .ok p →
      motive (.regex text options) [pattern p])
    (document : ∀ {fields : Fields} {ps : List Predicate}, readAll fields = .ok ps →
      (∀ entry ∈ fields, ∀ inner, readNegation entry.2 = .ok inner → motive entry.2 inner) →
      motive (.document fields) ps)
    (h : readNegation v = .ok ps) : motive v ps := by
  induction v using Value.induction generalizing ps with
  | document fields ih =>
    have hne : fields ≠ [] := by
      rintro rfl
      cases h
    rw [readNegation_document hne] at h
    exact document h fun entry hentry inner hinner => ih entry hentry hinner
  | array | scope => cases h
  | plain v hv =>
    cases v
    case regex text options =>
      obtain ⟨p, hp, hps⟩ := bind_ok h
      cases hps
      exact regex (Pattern.ofCondition_ok.mp hp)
    all_goals first | cases h | cases hv

end

end Predicate

namespace Query

/-- Reads one entry. -/
def readEntry (entry : String × Value) : Except ConditionFault Query :=
  if entry.1 = "$and" then (readClauses entry.2).map and
  else if entry.1 = "$or" then (readClauses entry.2).map or
  else if startsWithDollar entry.1 then .error (.unknownQueryOperator entry.1)
  else readField entry.1 entry.2

theorem readEntry_of_plain {name : String} (h : startsWithDollar name = false) (v : Value) :
    readEntry (name, v) = readField name v := by
  unfold readEntry
  rw [if_neg (ne_of_plain h (by decide)), if_neg (ne_of_plain h (by decide)),
    if_neg (by simp [h])]

theorem readEntry_of_operator {name : String} (h : startsWithDollar name = true)
    (hand : name ≠ "$and") (hor : name ≠ "$or") (v : Value) :
    readEntry (name, v) = .error (.unknownQueryOperator name) := by
  unfold readEntry
  rw [if_neg hand, if_neg hor, if_pos h]

theorem readEntries_cons (entry : String × Value) (rest : List (String × Value)) :
    readEntries (entry :: rest) = do
      let part ← readEntry entry
      let parts ← readEntries rest
      return part :: parts := by
  unfold readEntry
  rw [readEntries]
  split
  · rfl
  split
  · rfl
  split <;> rfl

theorem readEntries_eq_mapM (entries : List (String × Value)) :
    readEntries entries = entries.mapM readEntry := by
  induction entries with
  | nil => rfl
  | cons entry rest ih => rw [readEntries_cons, ih, List.mapM_cons]

/-- Reads one clause of a logical operator. -/
def readClause : Value → Except ConditionFault Query
  | .document (first :: rest) => read (first :: rest)
  | _ => .error .clauseNotDocument

theorem readClauseItems_eq_mapM (items : List Value) :
    readClauseItems items = items.mapM readClause := by
  induction items with
  | nil => rfl
  | cons item rest ih =>
    rw [List.mapM_cons, ← ih]
    cases item
    case document fields =>
      cases fields with
      | nil => rfl
      | cons first fields =>
        rw [readClauseItems, readClause, read]
        cases readEntries (first :: fields) <;> rfl
    all_goals rfl

theorem readClauses_array (items : List Value) : readClauses (.array items) = do
    let clauses ← items.mapM readClause
    if clauses.isEmpty then .error .noClauses else return clauses := by
  rw [readClauses, readClauseItems_eq_mapM]

section

variable {entry : String × Value} {v : Value} {q : Query} {qs : List Query}

/-- An entry of a query holds clauses, or what is asked of a field. -/
theorem readEntry_ok (h : readEntry entry = .ok q) :
    (∃ qs, readClauses entry.2 = .ok qs ∧
      (entry.1 = "$and" ∧ q = and qs ∨ entry.1 = "$or" ∧ q = or qs)) ∨
    ∃ path ps, startsWithDollar entry.1 = false ∧ Predicate.readField entry.2 = .ok ps ∧
      q = field path ps := by
  unfold readEntry at h
  split at h
  · rename_i hand
    obtain ⟨qs, hqs, rfl⟩ := map_ok h
    exact .inl ⟨qs, hqs, .inl ⟨hand, rfl⟩⟩
  split at h
  · rename_i hor
    obtain ⟨qs, hqs, rfl⟩ := map_ok h
    exact .inl ⟨qs, hqs, .inr ⟨hor, rfl⟩⟩
  split at h
  · cases h
  · rename_i hplain
    obtain ⟨path, -, h⟩ := bind_ok h
    obtain ⟨ps, hps, h⟩ := bind_ok h
    cases h
    exact .inr ⟨path, ps, by simpa using hplain, hps, rfl⟩

theorem readClauses_ok (h : readClauses v = .ok qs) :
    ∃ items, v = .array items ∧ qs ≠ [] ∧ items.mapM readClause = .ok qs := by
  cases v
  case array items =>
    rw [readClauses_array] at h
    obtain ⟨read, hread, h⟩ := bind_ok h
    split at h
    · cases h
    · rename_i hempty
      cases h
      exact ⟨items, rfl, mt List.isEmpty_iff.mpr hempty, hread⟩
  all_goals cases h

theorem readClause_ok (h : readClause v = .ok q) :
    ∃ fields parts, v = .document fields ∧ parts ≠ [] ∧ fields.mapM readEntry = .ok parts ∧
      q = ofParts parts := by
  cases v
  case document fields =>
    cases fields with
    | nil => cases h
    | cons first rest =>
      obtain ⟨parts, hparts, rfl⟩ := map_ok h
      rw [readEntries_eq_mapM] at hparts
      refine ⟨_, parts, rfl, ?_, hparts, rfl⟩
      rintro rfl
      cases mapM_ok_iff.mp hparts
  all_goals cases h

/-- What holds of queries and of lists of clauses as soon as it holds of those inside them. -/
theorem readClause_induction (clause : Value → Query → Prop) (clauses : Value → List Query → Prop)
    (document : ∀ {fields : Fields} {parts : List Query}, parts ≠ [] →
      fields.mapM readEntry = .ok parts →
      (∀ entry ∈ fields, ∀ qs, readClauses entry.2 = .ok qs → clauses entry.2 qs) →
      clause (.document fields) (ofParts parts))
    (array : ∀ {items : List Value} {qs : List Query}, qs ≠ [] → items.mapM readClause = .ok qs →
      (∀ item ∈ items, ∀ q, readClause item = .ok q → clause item q) → clauses (.array items) qs)
    (v : Value) : (∀ q, readClause v = .ok q → clause v q) ∧
      ∀ qs, readClauses v = .ok qs → clauses v qs := by
  induction v using Value.induction with
  | document fields ih =>
    refine ⟨?_, nofun⟩
    intro q h
    obtain ⟨_, parts, ⟨⟩, hne, hparts, rfl⟩ := readClause_ok h
    exact document hne hparts fun entry hentry => (ih entry hentry).2
  | array items ih =>
    refine ⟨nofun, ?_⟩
    intro qs h
    obtain ⟨_, ⟨⟩, hne, hqs⟩ := readClauses_ok h
    exact array hne hqs fun item hitem => (ih item hitem).1
  | scope => exact ⟨nofun, nofun⟩
  | plain v hv =>
    refine ⟨fun q h => ?_, fun qs h => ?_⟩
    · obtain ⟨_, _, rfl, -⟩ := readClause_ok h
      cases hv
    · obtain ⟨_, rfl, -⟩ := readClauses_ok h
      cases hv

end

theorem holds_ofParts (parts : List Query) (doc : Fields) :
    (ofParts parts).holds doc = parts.all (·.holds doc) := by
  unfold ofParts
  split
  · simp
  · exact holds_and parts doc

end Query

namespace Condition

/-- A condition is a value, a pattern, a document of operators or a query. -/
theorem parse_cases {operand : Value} {c : Condition} (h : parse operand = .ok c) :
    (operand.kind ≠ .regex ∧ (∀ fields, operand = .document fields → fields = []) ∧
      c = equals operand) ∨
    (∃ text options p, operand = .regex text options ∧ Pattern.compile text options = .ok p ∧
      c = pattern p operand) ∨
    (∃ fields ps, operand = .document fields ∧ Predicate.readAll fields = .ok ps ∧
      c = predicates ps) ∨
    ∃ q, Query.readClause operand = .ok q ∧ c = query q := by
  cases operand
  case document fields =>
    cases fields with
    | nil =>
      cases h
      exact .inl ⟨nofun, fun _ hfields => (Value.document.inj hfields).symm, rfl⟩
    | cons first rest =>
      rw [parse] at h
      split at h
      · obtain ⟨ps, hps, rfl⟩ := map_ok h
        exact .inr (.inr (.inl ⟨_, ps, rfl, hps, rfl⟩))
      · obtain ⟨q, hq, rfl⟩ := map_ok h
        exact .inr (.inr (.inr ⟨q, hq, rfl⟩))
      · exact nofun
  case regex text options =>
    obtain ⟨p, hp, h⟩ := bind_ok h
    cases h
    exact .inr (.inl ⟨text, options, p, rfl, Pattern.ofCondition_ok.mp hp, rfl⟩)
  all_goals
    cases h
    exact .inl ⟨nofun, nofun, rfl⟩

theorem parse_document {fields : Fields} (h : fields ≠ []) : parse (.document fields) =
    if fields.keys.all predicateNames.contains then (Predicate.readAll fields).map predicates
    else (Query.read fields).map query := by
  rw [Fields.keys, List.all_map]
  exact parse.eq_2 fields h

end Condition

end DocUpdate
