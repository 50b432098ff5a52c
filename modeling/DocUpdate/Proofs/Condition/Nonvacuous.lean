import DocUpdate.Proofs.Condition.Reading

/-!
# Conditions that ask for something

A list of predicates or of queries that all have to hold would hold of everything if it were
empty. No reader gives such a list, at any depth, so an item is pulled only if a test that was
written passes.
-/

namespace DocUpdate

/-! ## Lists that are not empty -/

/-- Something is negated wherever there is a negation. -/
inductive Predicate.Nonvacuous : Predicate → Prop where
  | negation {inner : List Predicate} (hne : inner ≠ []) (h : ∀ p ∈ inner, Nonvacuous p) :
      Nonvacuous (negation inner)
  | leaf {p : Predicate} (h : p.isLeaf = true) : Nonvacuous p

/-- Predicates that ask for something together. -/
def Predicate.AllNonvacuous (ps : List Predicate) : Prop := ps ≠ [] ∧ ∀ p ∈ ps, p.Nonvacuous

/-- Logical operators have clauses, and fields are asked for something. -/
inductive Query.Nonvacuous : Query → Prop where
  | and {parts : List Query} (hne : parts ≠ []) (h : ∀ q ∈ parts, Nonvacuous q) :
      Nonvacuous (and parts)
  | or {parts : List Query} (hne : parts ≠ []) (h : ∀ q ∈ parts, Nonvacuous q) :
      Nonvacuous (or parts)
  | field (path : Path) {ps : List Predicate} (h : Predicate.AllNonvacuous ps) :
      Nonvacuous (field path ps)

/-- No list of predicates or queries in a condition is empty. -/
def Condition.Nonvacuous : Condition → Prop
  | predicates all => Predicate.AllNonvacuous all
  | query q => q.Nonvacuous
  | equals _ | pattern _ _ => True

/-! ## What is read -/

namespace Predicate

variable {fields : Fields} {v : Value} {p : Predicate} {ps : List Predicate}

theorem isLeaf_of_readSimple {name : String} (h : readSimple fields name v = .ok (some p)) :
    p.isLeaf = true := by
  rcases readSimple_ok h with ⟨-, read, hread, hp⟩ | ⟨-, hp⟩ |
    ⟨items, -, ⟨-, hp⟩ | ⟨-, hp⟩⟩ | ⟨-, read, hp, hcomparison⟩
  · cases hp
    obtain ⟨text, options, pat, -, -, rfl⟩ := readPattern_ok hread
    rfl
  · cases hp
  · cases hp
    rfl
  · cases hp
    rfl
  · cases hp
    cases p <;> first | rfl | cases hcomparison

theorem allNonvacuous_singleton (h : p.isLeaf = true) : AllNonvacuous [p] := by
  refine ⟨List.cons_ne_nil _ _, ?_⟩
  intro q hq
  obtain rfl := List.mem_singleton.mp hq
  exact .leaf h

/-- Operators ask for something if what is negated among them does. -/
theorem allNonvacuous_of_readAll (h : readAll fields = .ok ps)
    (hinner : ∀ entry ∈ fields, ∀ inner, readNegation entry.2 = .ok inner → AllNonvacuous inner) :
    AllNonvacuous ps := by
  refine ⟨(readAll_ok h).1, ?_⟩
  intro p hp
  obtain ⟨entry, hentry, hread⟩ := exists_entry_of_readAll h hp
  rcases readEntry_ok hread with ⟨inner, -, hnegation, rfl⟩ | ⟨-, hsimple⟩
  · obtain ⟨hne, hall⟩ := hinner entry hentry inner hnegation
    exact .negation hne hall
  · exact .leaf (isLeaf_of_readSimple hsimple)

theorem allNonvacuous_of_readNegation (h : readNegation v = .ok ps) : AllNonvacuous ps := by
  refine readNegation_induction (motive := fun _ => AllNonvacuous) ?regex ?document h
  case regex => exact fun _ => allNonvacuous_singleton rfl
  case document => exact fun hread hinner => allNonvacuous_of_readAll hread hinner

theorem AllNonvacuous.of_readAll (h : readAll fields = .ok ps) : AllNonvacuous ps :=
  allNonvacuous_of_readAll h fun _ _ _ hinner => allNonvacuous_of_readNegation hinner

theorem allNonvacuous_of_readField (h : readField v = .ok ps) : AllNonvacuous ps := by
  rcases readField_cases h with ⟨fields, -, -, hread⟩ | ⟨_, _, p, -, -, rfl⟩ | ⟨-, -, rfl⟩
  · exact .of_readAll hread
  · exact allNonvacuous_singleton rfl
  · exact allNonvacuous_singleton rfl

end Predicate

namespace Query

/-- One part stands for itself, and several are a conjunction that is not empty. -/
theorem nonvacuous_ofParts {parts : List Query} (hne : parts ≠ [])
    (h : ∀ q ∈ parts, q.Nonvacuous) : (ofParts parts).Nonvacuous := by
  unfold ofParts
  split
  · exact h _ (List.mem_singleton_self _)
  · exact .and hne h

theorem nonvacuous_of_readClause {v : Value} {q : Query} (h : readClause v = .ok q) :
    q.Nonvacuous := by
  refine (readClause_induction (fun _ q => q.Nonvacuous)
    (fun _ qs => qs ≠ [] ∧ ∀ q ∈ qs, q.Nonvacuous) ?document ?array v).1 q h
  case document =>
    intro fields parts hne hparts hclauses
    apply nonvacuous_ofParts hne
    intro q hq
    obtain ⟨entry, hentry, hread⟩ := mem_of_mapM_ok hparts hq
    rcases readEntry_ok hread with ⟨qs, hqs, hlogical⟩ | ⟨path, ps, -, hps, rfl⟩
    · obtain ⟨hqs, hall⟩ := hclauses entry hentry qs hqs
      rcases hlogical with ⟨-, rfl⟩ | ⟨-, rfl⟩
      · exact .and hqs hall
      · exact .or hqs hall
    · exact .field path (Predicate.allNonvacuous_of_readField hps)
  case array =>
    intro items qs hne hqs hitems
    refine ⟨hne, ?_⟩
    intro q hq
    obtain ⟨item, hitem, hread⟩ := mem_of_mapM_ok hqs hq
    exact hitems item hitem q hread

end Query

/-! ## What an item has passed that is pulled -/

/-- A query asks this of what is at a path, below any logical operators. -/
inductive Query.Asks : Query → Path → Predicate → Prop where
  | and {parts : List Query} {q : Query} {path : Path} {p : Predicate} (hq : q ∈ parts)
      (h : Asks q path p) : Asks (and parts) path p
  | or {parts : List Query} {q : Query} {path : Path} {p : Predicate} (hq : q ∈ parts)
      (h : Asks q path p) : Asks (or parts) path p
  | field {path : Path} {ps : List Predicate} {p : Predicate} (hp : p ∈ ps) :
      Asks (field path ps) path p

namespace Condition

/-- Some test of the condition passes for an item. -/
def PassesSome (c : Condition) (item : Value) : Prop :=
  match c with
  | equals value => item.equal value
  | pattern p literal => p.isMatch item ∨ item.equal literal
  | predicates all => ∃ p ∈ all, p.holds (some item)
  | query q => ∃ (doc : Fields) (path : Path) (p : Predicate), item = .document doc ∧
      q.Asks path p ∧ p.holds (doc.readOrMissing path)

end Condition

theorem Predicate.AllNonvacuous.exists_holds {ps : List Predicate} (hps : AllNonvacuous ps)
    {found : Option Value} (h : ps.all (·.holds found)) : ∃ p ∈ ps, p.holds found := by
  obtain ⟨p, hp⟩ := List.exists_mem_of_ne_nil ps hps.1
  exact ⟨p, hp, List.all_eq_true.mp h p hp⟩

/-- Logical operators hold because of what is asked of a field below them. -/
theorem Query.Nonvacuous.exists_asks {q : Query} (hq : q.Nonvacuous) {doc : Fields}
    (h : q.holds doc) : ∃ path p, q.Asks path p ∧ p.holds (doc.readOrMissing path) := by
  induction hq with
  | @and parts hne _ ih =>
    rw [holds_and] at h
    obtain ⟨q, hq⟩ := List.exists_mem_of_ne_nil parts hne
    obtain ⟨path, p, hasks, hp⟩ := ih q hq (List.all_eq_true.mp h q hq)
    exact ⟨path, p, .and hq hasks, hp⟩
  | or _ _ ih =>
    rw [holds_or] at h
    obtain ⟨q, hq, hholds⟩ := List.any_eq_true.mp h
    obtain ⟨path, p, hasks, hp⟩ := ih q hq hholds
    exact ⟨path, p, .or hq hasks, hp⟩
  | field path hps =>
    rw [holds_field] at h
    obtain ⟨p, hp, hholds⟩ := hps.exists_holds h
    exact ⟨path, p, .field hp, hholds⟩

namespace Condition

variable {c : Condition}

theorem Nonvacuous.passesSome (hc : c.Nonvacuous) {item : Value} (h : c.matches item) :
    c.PassesSome item := by
  cases c with
  | equals value => exact h
  | pattern p literal => exact Bool.or_eq_true_iff.mp h
  | predicates all =>
    rw [Condition.matches, Predicate.allHold_eq_all] at h
    exact Predicate.AllNonvacuous.exists_holds hc h
  | query q =>
    cases item
    case document doc =>
      obtain ⟨path, p, hasks, hp⟩ := Query.Nonvacuous.exists_asks hc h
      exact ⟨doc, path, p, rfl, hasks, hp⟩
    all_goals cases h

/-- A condition that is read has no empty list in it, and it is met only by items for which some
test of it passes. -/
theorem nonvacuous_of_parse {operand : Value} (h : parse operand = .ok c) :
    c.Nonvacuous ∧ ∀ item, c.matches item → c.PassesSome item := by
  have hc : c.Nonvacuous := by
    rcases parse_cases h with
      ⟨-, -, rfl⟩ | ⟨_, _, _, -, -, rfl⟩ | ⟨_, _, -, hps, rfl⟩ | ⟨q, hq, rfl⟩
    · trivial
    · trivial
    · exact Predicate.AllNonvacuous.of_readAll hps
    · exact Query.nonvacuous_of_readClause hq
  exact ⟨hc, fun item hitem => hc.passesSome hitem⟩

/-- A negated pattern, whose options are no predicate, in the single clause of a disjunction. -/
theorem nonvacuous_below_single_clause :
    let operand : Value := .document
      [("$or", .array [.document [("a", .document
        [("$not", .document [("$options", .string "s"), ("$regex", .string "x")])])]])]
    let item : Value := .document [("a", .string "y")]
    ∃ c, parse operand = .ok c ∧ c.Nonvacuous ∧ c.matches item ∧ c.PassesSome item := by
  intro operand item
  have hread : (match parse operand with
    | .ok c => c.matches item
    | .error _ => false) = true := by decide +kernel
  split at hread
  · rename_i c hparse
    obtain ⟨hc, hpasses⟩ := nonvacuous_of_parse hparse
    exact ⟨c, hparse, hc, hread, hpasses item hread⟩
  · cases hread

end Condition

end DocUpdate
