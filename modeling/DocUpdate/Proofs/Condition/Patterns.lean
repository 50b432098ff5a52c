import DocUpdate.Proofs.Condition.Comparison
import DocUpdate.Proofs.Condition.Reordering

/-!
# The patterns of a condition

A regular expression is written by itself, with its options beside it, or as a member of a list.
Those that are written by themselves are compiled while the condition is read, and the condition
is refused if one of them does not compile. Members of lists are kept as they are written. They are
compiled for every item, and one that does not compile matches nothing.
-/

namespace DocUpdate

theorem Pattern.isOption_of_compile {text options : String} {p : Pattern}
    (h : compile text options = .ok p) : ∀ letter ∈ options.toList, isOption letter := by
  unfold compile at h
  split at h
  · cases h
  · rename_i hfind
    simpa using hfind

namespace Condition

/-! ## What is written and what is run -/

/-- How a regular expression stands in an operand. -/
inductive Standing where
  | alone
  | listed
deriving DecidableEq

/-- A regular expression with these options is written somewhere in a value. -/
inductive Written : Role → Value → Standing → String → String → Prop where
  | itself {role : Role} {text options : String} (hrole : role.hasEntries) :
      Written role (.regex text options) .alone text options
  -- A document that a field is compared with holds no patterns to run, so a field has to be asked
  -- for operators here.
  | operator {role : Role} {fields : Fields} {text options : String} (hrole : role.hasEntries)
      (hfield : role = .field → hasOperators fields)
      (h : Predicate.PatternSource fields text options) :
      Written role (.document fields) .alone text options
  | entry {role : Role} {fields : Fields} {entry : String × Value} {standing : Standing}
      {text options : String} (hrole : role.hasEntries)
      (hfield : role = .field → hasOperators fields) (hentry : entry ∈ fields)
      (h : Written (Role.ofName entry.1) entry.2 standing text options) :
      Written role (.document fields) standing text options
  | clause {items : List Value} {item : Value} {standing : Standing} {text options : String}
      (hitem : item ∈ items) (h : Written .query item standing text options) :
      Written .clauses (.array items) standing text options
  | member {items : List Value} {text options : String} (h : .regex text options ∈ items) :
      Written .members (.array items) .listed text options

end Condition

open Condition

/-- The values that are tried one after the other. -/
def Predicate.members : Predicate → List Value
  | oneOf ws | noneOf ws => ws
  | _ => []

theorem Predicate.members_of_isComparison {p : Predicate} (h : p.isComparison = true) :
    p.members = [] := by
  cases p <;> first | rfl | cases h

/-- A predicate runs a regular expression that is written like this. -/
inductive Predicate.Runs : Predicate → Standing → String → String → Prop where
  | alone {p : Pattern} {text options : String} (h : Pattern.compile text options = .ok p) :
      Runs (pattern p) .alone text options
  | listed {leaf : Predicate} {text options : String} (h : .regex text options ∈ leaf.members) :
      Runs leaf .listed text options

/-- The predicates that a condition is built from. -/
def Condition.leaves : Condition → List Predicate
  | equals _ => []
  | pattern p _ => [.pattern p]
  | predicates all => Predicate.leavesOfAll all
  | query q => q.leaves

/-- What is written is run by a predicate, and what a predicate runs is written. -/
structure Accounts (written : Standing → String → String → Prop) (leaves : List Predicate) :
    Prop where
  run : ∀ {standing text options}, written standing text options →
    ∃ leaf ∈ leaves, leaf.Runs standing text options
  pattern : ∀ {p}, Predicate.pattern p ∈ leaves →
    ∃ text options, written .alone text options ∧ Pattern.compile text options = .ok p
  listed : ∀ {leaf text options}, leaf ∈ leaves → .regex text options ∈ leaf.members →
    written .listed text options

namespace Accounts

variable {α β : Type} {written written' : Standing → String → String → Prop}
  {leaves : List Predicate}

theorem congr (h : ∀ standing text options, written standing text options ↔
    written' standing text options) (hwritten : Accounts written leaves) :
    Accounts written' leaves := by
  have heq : written = written' := by
    funext standing text options
    exact propext (h standing text options)
  exact heq ▸ hwritten

/-- Nothing is written, and nothing is run. -/
theorem none (hwritten : ∀ standing text options, ¬ written standing text options)
    (hleaves : ∀ leaf ∈ leaves, leaf.isComparison = true) : Accounts written leaves where
  run h := absurd h (hwritten _ _ _)
  pattern hp := nomatch hleaves _ hp
  listed hleaf hmember := by
    rw [Predicate.members_of_isComparison (hleaves _ hleaf)] at hmember
    cases hmember

theorem single {p : Pattern} (hrun : ∀ {standing text options}, written standing text options →
      standing = .alone ∧ Pattern.compile text options = .ok p)
    (hsource : ∃ text options, written .alone text options ∧
      Pattern.compile text options = .ok p) : Accounts written [.pattern p] where
  run h := by
    obtain ⟨rfl, hp⟩ := hrun h
    exact ⟨_, List.mem_singleton_self _, .alone hp⟩
  pattern h := by
    cases List.mem_singleton.mp h
    exact hsource
  listed hleaf hmember := by
    cases List.mem_singleton.mp hleaf
    cases hmember

/-- Parts that account for what is written in them do so together. -/
theorem flatMap {written : α → Standing → String → String → Prop} {leaves : β → List Predicate}
    {xs : List α} {ys : List β}
    (h : List.Forall₂ (fun x y => Accounts (written x) (leaves y)) xs ys) :
    Accounts (fun standing text options => ∃ x ∈ xs, written x standing text options)
      (ys.flatMap leaves) where
  run := by
    rintro standing text options ⟨x, hx, hwritten⟩
    obtain ⟨y, hy, hxy⟩ := exists_mem_of_forall₂ h.flip hx
    obtain ⟨leaf, hleaf, hruns⟩ := hxy.run hwritten
    exact ⟨leaf, List.mem_flatMap.mpr ⟨y, hy, hleaf⟩, hruns⟩
  pattern hp := by
    obtain ⟨y, hy, hp⟩ := List.mem_flatMap.mp hp
    obtain ⟨x, hx, hxy⟩ := exists_mem_of_forall₂ h hy
    obtain ⟨text, options, hwritten, hcompile⟩ := hxy.pattern hp
    exact ⟨text, options, ⟨x, hx, hwritten⟩, hcompile⟩
  listed hleaf hmember := by
    obtain ⟨y, hy, hleaf⟩ := List.mem_flatMap.mp hleaf
    obtain ⟨x, hx, hxy⟩ := exists_mem_of_forall₂ h hy
    exact ⟨x, hx, hxy.listed hleaf hmember⟩

end Accounts

namespace Condition

variable {role : Role} {fields : Fields} {items : List Value} {standing : Standing}
  {text options : String}

/-! ## Where it is written -/

theorem not_written_of_literal {name : String} (hname : Role.ofName name = .literal) {v : Value} :
    ¬ Written (Role.ofName name) v standing text options := by
  rw [hname]
  intro h
  cases h with
  | itself hrole | operator hrole | entry hrole => cases hrole

theorem written_regex_iff (hrole : role.hasEntries) {own ownOptions : String} :
    Written role (.regex own ownOptions) standing text options ↔
      standing = .alone ∧ text = own ∧ options = ownOptions := by
  constructor
  · intro h
    cases h
    exact ⟨rfl, rfl, rfl⟩
  · rintro ⟨rfl, rfl, rfl⟩
    exact .itself hrole

theorem written_clauses_iff : Written .clauses (.array items) standing text options ↔
    ∃ item ∈ items, Written .query item standing text options := by
  constructor
  · intro h
    cases h with
    | clause hitem h => exact ⟨_, hitem, h⟩
  · rintro ⟨item, hitem, h⟩
    exact .clause hitem h

theorem written_members_iff : Written .members (.array items) standing text options ↔
    standing = .listed ∧ .regex text options ∈ items := by
  constructor
  · intro h
    cases h with
    | member h => exact ⟨rfl, h⟩
  · rintro ⟨rfl, h⟩
    exact .member h

/-- What an entry writes. A pattern is written where its text is, not where its options are. -/
def WrittenIn (fields : Fields) (entry : String × Value) (standing : Standing)
    (text options : String) : Prop :=
  (entry.1 = "$regex" ∧ standing = .alone ∧ Predicate.PatternSource fields text options) ∨
    Written (Role.ofName entry.1) entry.2 standing text options

theorem exists_entry_of_source (h : Predicate.PatternSource fields text options) :
    ∃ entry ∈ fields, entry.1 = "$regex" := by
  cases h with
  | string _ hget | regex _ hget => exact ⟨_, Fields.get?_mem hget, rfl⟩

theorem written_document_iff (hrole : role.hasEntries)
    (hfield : role = .field → hasOperators fields) :
    Written role (.document fields) standing text options ↔
      ∃ entry ∈ fields, WrittenIn fields entry standing text options := by
  constructor
  · intro h
    cases h with
    | operator _ _ h =>
      obtain ⟨entry, hentry, hname⟩ := exists_entry_of_source h
      exact ⟨entry, hentry, .inl ⟨hname, rfl, h⟩⟩
    | entry _ _ hentry h => exact ⟨_, hentry, .inr h⟩
  · rintro ⟨entry, hentry, ⟨-, rfl, h⟩ | h⟩
    · exact .operator hrole hfield h
    · exact .entry hrole hfield hentry h

/-- Apart from documents and regular expressions, nothing is written where entries are read. -/
theorem not_written_of_kind {v : Value} (hrole : role.hasEntries) (hregex : v.kind ≠ .regex)
    (hdocument : ∀ fields, v = .document fields → fields = [] ∨
      (role = .field ∧ ¬ hasOperators fields)) : ¬ Written role v standing text options := by
  intro h
  cases h with
  | itself => exact hregex rfl
  | operator _ hfield h =>
    rcases hdocument _ rfl with rfl | ⟨hrole, hoperators⟩
    · obtain ⟨entry, hentry, -⟩ := exists_entry_of_source h
      cases hentry
    · exact hoperators (hfield hrole)
  | entry _ hfield hentry =>
    rcases hdocument _ rfl with rfl | ⟨hrole, hoperators⟩
    · cases hentry
    · exact hoperators (hfield hrole)
  | clause | member => cases hrole

end Condition

/-! ## What is read -/

namespace Predicate

variable {fields : Fields} {entry : String × Value} {v : Value} {found : Option Predicate}
  {ps : List Predicate}

theorem accounts_regex {role : Role} (hrole : role.hasEntries) {text options : String}
    {p : Pattern} (h : Pattern.compile text options = .ok p) :
    Accounts (Written role (.regex text options)) [pattern p] := by
  apply Accounts.single
  case hrun =>
    intro standing text' options' hwritten
    obtain ⟨rfl, rfl, rfl⟩ := (written_regex_iff hrole).mp hwritten
    exact ⟨rfl, h⟩
  case hsource => exact ⟨text, options, .itself hrole, h⟩

theorem accounts_readPattern {p : Predicate} (h : readPattern fields = .ok p) :
    Accounts (WrittenIn fields ("$regex", v)) (leavesOfAll [p]) := by
  obtain ⟨text, options, pat, hsource, hpat, rfl⟩ := readPattern_ok h
  apply Accounts.single
  case hrun =>
    rintro standing text' options' (⟨-, rfl, hwritten⟩ | hwritten)
    · obtain ⟨pat', hpat', heq⟩ := readPattern_of_source hwritten h
      cases heq
      exact ⟨rfl, hpat'⟩
    · have hname : Role.ofName "$regex" = .literal := by decide
      exact absurd hwritten (not_written_of_literal hname)
  case hsource => exact ⟨text, options, .inl ⟨rfl, rfl, hsource⟩, hpat⟩

theorem accounts_members {items : List Value} {leaf : Predicate} (hmembers : leaf.members = items)
    (hpattern : ∀ p, leaf ≠ pattern p) :
    Accounts (Written .members (.array items)) [leaf] where
  run h := by
    obtain ⟨rfl, hmember⟩ := written_members_iff.mp h
    exact ⟨leaf, List.mem_singleton_self _, .listed (hmembers ▸ hmember)⟩
  pattern h := absurd (List.mem_singleton.mp h).symm (hpattern _)
  listed hleaf hmember := by
    cases List.mem_singleton.mp hleaf
    exact .member (hmembers ▸ hmember)

theorem writtenIn_iff {name : String} (hname : name ≠ "$regex") (standing : Standing)
    (text options : String) : Written (Role.ofName name) v standing text options ↔
      WrittenIn fields (name, v) standing text options :=
  ⟨.inr, fun h => h.resolve_left fun h => hname h.1⟩

theorem accounts_literal {name : String} (hname : Role.ofName name = .literal)
    (hregex : name ≠ "$regex") (hleaves : ∀ p ∈ ps, p.isComparison = true) :
    Accounts (WrittenIn fields (name, v)) ps := by
  refine Accounts.congr (writtenIn_iff hregex) (Accounts.none ?_ hleaves)
  exact fun _ _ _ => not_written_of_literal hname

theorem accounts_list {name : String} (hname : Role.ofName name = .members)
    (hregex : name ≠ "$regex") {items : List Value} {leaf : Predicate}
    (hmembers : leaf.members = items) (hpattern : ∀ p, leaf ≠ pattern p) :
    Accounts (WrittenIn fields (name, .array items)) [leaf] := by
  refine Accounts.congr (writtenIn_iff hregex) ?_
  rw [hname]
  exact accounts_members hmembers hpattern

theorem role_of_comparison : ∀ name ∈ comparisonNames,
    Role.ofName name = .literal ∧ name ≠ "$regex" := by
  decide

theorem accounts_readSimple {name : String} (h : readSimple fields name v = .ok found) :
    Accounts (WrittenIn fields (name, v)) (leavesOfAll found.toList) := by
  rcases readSimple_ok h with ⟨rfl, p, hp, rfl⟩ | ⟨rfl, rfl⟩ |
    ⟨items, rfl, ⟨rfl, rfl⟩ | ⟨rfl, rfl⟩⟩ | ⟨hname, p, rfl, hcomparison⟩
  · exact accounts_readPattern hp
  · exact accounts_literal (by decide) (by decide) (by simp [leavesOfAll])
  · exact accounts_list (by decide) (by decide) rfl (by simp)
  · exact accounts_list (by decide) (by decide) rfl (by simp)
  · obtain ⟨hrole, hregex⟩ := role_of_comparison name hname
    have hleaves : leavesOfAll [p] = [p] := by
      cases p <;> first | rfl | cases hcomparison
    refine accounts_literal hrole hregex ?_
    rw [Option.toList_some, hleaves]
    exact List.forall_mem_singleton.mpr hcomparison

theorem accounts_readEntry (h : readEntry fields entry = .ok found)
    (hnegation : ∀ inner, readNegation entry.2 = .ok inner →
      Accounts (Written .operators entry.2) (leavesOfAll inner)) :
    Accounts (WrittenIn fields entry) (leavesOfAll found.toList) := by
  obtain ⟨name, v⟩ := entry
  unfold readEntry at h
  split at h
  · rename_i hname
    obtain rfl : name = "$not" := hname
    obtain ⟨inner, hinner, rfl⟩ := map_ok h
    refine Accounts.congr (writtenIn_iff (by decide)) ?_
    have hrole : Role.ofName "$not" = .operators := by decide
    simpa [leavesOfAll, leaves, hrole] using hnegation inner hinner
  · exact accounts_readSimple h

theorem leavesOfAll_reduceOption (founds : List (Option Predicate)) :
    leavesOfAll founds.reduceOption = founds.flatMap fun found => leavesOfAll found.toList := by
  induction founds with
  | nil => rfl
  | cons found rest ih =>
    rw [leavesOfAll_eq_flatMap] at ih ⊢
    cases found with
    | none => simpa [leavesOfAll] using ih
    | some p => simpa [leavesOfAll] using ih

/-- Operators account for what is written among them if what is negated there does. -/
theorem accounts_readAll {role : Role} (hrole : role.hasEntries)
    (hfield : role = .field → hasOperators fields) (h : readAll fields = .ok ps)
    (hnegation : ∀ entry ∈ fields, ∀ inner, readNegation entry.2 = .ok inner →
      Accounts (Written .operators entry.2) (leavesOfAll inner)) :
    Accounts (Written role (.document fields)) (leavesOfAll ps) := by
  obtain ⟨-, founds, hfounds, rfl⟩ := readAll_ok h
  -- Every entry is read to one predicate or to none, so entries and their leaves go in step.
  rw [leavesOfAll_reduceOption]
  refine Accounts.congr (fun _ _ _ => (written_document_iff hrole hfield).symm) ?_
  have hentries := (List.forall₂_and_left _ _).mpr ⟨hnegation, mapM_ok_iff.mp hfounds⟩
  apply Accounts.flatMap
  exact hentries.imp fun _ _ h => accounts_readEntry h.2 h.1

theorem accounts_readNegation (h : readNegation v = .ok ps) :
    Accounts (Written .operators v) (leavesOfAll ps) := by
  refine readNegation_induction (motive := fun v ps =>
    Accounts (Written .operators v) (leavesOfAll ps)) ?regex ?document h
  case regex => exact accounts_regex rfl
  case document => exact fun hread hinner => accounts_readAll rfl nofun hread hinner

theorem accounts_readField (h : readField v = .ok ps) :
    Accounts (Written .field v) (leavesOfAll ps) := by
  rcases readField_cases h with
    ⟨fields, rfl, hoperators, hread⟩ | ⟨_, _, p, rfl, hp, rfl⟩ | ⟨hregex, hplain, rfl⟩
  · exact accounts_readAll rfl (fun _ => hoperators) hread fun _ _ _ => accounts_readNegation
  · exact accounts_regex rfl hp
  · apply Accounts.none
    · intro standing text options
      exact not_written_of_kind rfl hregex fun fields hfields => .inr ⟨rfl, hplain fields hfields⟩
    · simp [leavesOfAll, leaves, isComparison]

end Predicate

namespace Query

variable {entry : String × Value} {v : Value} {q : Query} {qs : List Query}

theorem accounts_readEntry (h : readEntry entry = .ok q)
    (hclauses : ∀ qs, readClauses entry.2 = .ok qs →
      Accounts (Written .clauses entry.2) (leavesOfAll qs)) (fields : Fields) :
    Accounts (WrittenIn fields entry) q.leaves := by
  obtain ⟨name, v⟩ := entry
  rcases readEntry_ok h with ⟨qs, hqs, ⟨hname, rfl⟩ | ⟨hname, rfl⟩⟩ | ⟨path, ps, hplain, hps, rfl⟩
  case inr =>
    refine Accounts.congr (Predicate.writtenIn_iff (ne_of_plain hplain (by decide))) ?_
    rw [Role.ofName_of_plain hplain]
    exact Predicate.accounts_readField hps
  all_goals
    cases hname
    exact Accounts.congr (Predicate.writtenIn_iff (by decide)) (hclauses qs hqs)

theorem leaves_ofParts (parts : List Query) : (ofParts parts).leaves = leavesOfAll parts := by
  unfold ofParts
  split
  · simp [leavesOfAll]
  · rfl

theorem accounts_readClause (h : readClause v = .ok q) : Accounts (Written .query v) q.leaves := by
  refine (readClause_induction (fun v q => Accounts (Written .query v) q.leaves)
    (fun v qs => Accounts (Written .clauses v) (leavesOfAll qs)) ?document ?array v).1 q h
  case document =>
    intro fields parts _ hparts hclauses
    rw [leaves_ofParts, leavesOfAll_eq_flatMap]
    have hrole : Role.query = .field → hasOperators fields := nofun
    refine Accounts.congr (fun _ _ _ => (written_document_iff rfl hrole).symm) ?_
    have hentries := (List.forall₂_and_left _ _).mpr ⟨hclauses, mapM_ok_iff.mp hparts⟩
    apply Accounts.flatMap
    exact hentries.imp fun _ _ h => accounts_readEntry h.2 h.1 fields
  case array =>
    intro items qs _ hqs hitems
    rw [leavesOfAll_eq_flatMap]
    refine Accounts.congr (fun _ _ _ => written_clauses_iff.symm) ?_
    have hclauses := (List.forall₂_and_left _ _).mpr ⟨hitems, mapM_ok_iff.mp hqs⟩
    apply Accounts.flatMap
    exact hclauses.imp fun _ _ h => h.1 _ h.2

end Query

namespace Condition

variable {operand : Value} {c : Condition}

theorem accounts_parse (h : parse operand = .ok c) : Accounts (Written .query operand) c.leaves := by
  rcases parse_cases h with
    ⟨hregex, hdocument, rfl⟩ | ⟨_, _, p, rfl, hp, rfl⟩ | ⟨fields, ps, rfl, hps, rfl⟩ | ⟨q, hq, rfl⟩
  · refine Accounts.none (fun _ _ _ => not_written_of_kind rfl hregex ?_) nofun
    exact fun fields hfields => .inl (hdocument fields hfields)
  · exact Predicate.accounts_regex rfl hp
  · exact Predicate.accounts_readAll rfl nofun hps fun _ _ _ => Predicate.accounts_readNegation
  · exact Query.accounts_readClause hq

/-- A condition runs the regular expressions that are written in its operand. Those that stand
alone have been compiled, so all of them compile if the members of lists do. A member that does not
compile matches nothing, and is not refused. -/
theorem patterns_of_parse (h : parse operand = .ok c) :
    (∀ p, .pattern p ∈ c.leaves ↔ ∃ text options, Written .query operand .alone text options ∧
      Pattern.compile text options = .ok p) ∧
    (∀ text options, Written .query operand .listed text options ↔
      ∃ leaf ∈ c.leaves, .regex text options ∈ leaf.members) ∧
    (∀ text options, Written .query operand .alone text options →
      (∀ letter ∈ options.toList, Pattern.isOption letter) ∧
        ∃ p, Pattern.compile text options = .ok p) ∧
    ((∀ standing text options, Written .query operand standing text options →
      ∃ p, Pattern.compile text options = .ok p) ↔
      ∀ leaf ∈ c.leaves, ∀ text options, .regex text options ∈ leaf.members →
        ∃ p, Pattern.compile text options = .ok p) ∧
    ∀ text options fault, Pattern.compile text options = .error fault →
      ∀ v, Predicate.isMember v (.regex text options) = v.equal (.regex text options) := by
  have hall := accounts_parse h
  have halone {text options : String} (hwritten : Written .query operand .alone text options) :
      ∃ p, Pattern.compile text options = .ok p ∧ .pattern p ∈ c.leaves := by
    obtain ⟨_, hleaf, hruns⟩ := hall.run hwritten
    cases hruns with
    | alone hp => exact ⟨_, hp, hleaf⟩
  have hlisted {text options : String} (hwritten : Written .query operand .listed text options) :
      ∃ leaf ∈ c.leaves, .regex text options ∈ leaf.members := by
    obtain ⟨leaf, hleaf, hruns⟩ := hall.run hwritten
    cases hruns with
    | listed hmember => exact ⟨leaf, hleaf, hmember⟩
  refine ⟨?compiled, ?kept, ?accepted, ?exact, ?ignored⟩
  case compiled =>
    intro p
    refine ⟨hall.pattern, ?_⟩
    rintro ⟨text, options, hwritten, hp⟩
    obtain ⟨p', hp', hleaf⟩ := halone hwritten
    cases hp.symm.trans hp'
    exact hleaf
  case kept =>
    intro text options
    refine ⟨hlisted, ?_⟩
    rintro ⟨leaf, hleaf, hmember⟩
    exact hall.listed hleaf hmember
  case accepted =>
    intro text options hwritten
    obtain ⟨p, hp, -⟩ := halone hwritten
    exact ⟨Pattern.isOption_of_compile hp, p, hp⟩
  case exact =>
    constructor
    · intro hcompile leaf hleaf text options hmember
      exact hcompile .listed text options (hall.listed hleaf hmember)
    · intro hmembers standing text options hwritten
      cases standing with
      | alone =>
        obtain ⟨p, hp, -⟩ := halone hwritten
        exact ⟨p, hp⟩
      | listed =>
        obtain ⟨leaf, hleaf, hmember⟩ := hlisted hwritten
        exact hmembers leaf hleaf text options hmember
  case ignored =>
    intro text options fault hfault v
    simp [Predicate.isMember, hfault]

/-- A pattern with its options below a negation, and a member of a list beside it. -/
theorem patterns_of_negated_operators :
    let operand : Value := .document [("a", .document
      [("$nin", .array [.regex "y" ""]),
        ("$not", .document [("$options", .string "s"), ("$regex", .string "x")])])]
    ∃ c, parse operand = .ok c ∧ (∃ p, Pattern.compile "x" "s" = .ok p ∧ .pattern p ∈ c.leaves) ∧
      ∃ leaf ∈ c.leaves, .regex "y" "" ∈ leaf.members := by
  intro operand
  have hread : (parse operand).isOk = true := by decide +kernel
  cases hparse : parse operand with
  | error fault =>
    rw [hparse] at hread
    cases hread
  | ok c =>
    obtain ⟨hcompiled, hkept, haccepted, -, -⟩ := patterns_of_parse hparse
    have hsource (fields : Fields) (hoptions : fields.get? "$options" = some (.string "s"))
        (htext : fields.get? "$regex" = some (.string "x")) :
        Predicate.PatternSource fields "x" "s" := by
      have hread : Predicate.optionsOf fields = .ok (some "s") := by
        rw [Predicate.optionsOf, hoptions]
      exact .string hread htext
    have hnot : Written .query operand .alone "x" "s" := by
      refine .entry rfl nofun List.mem_cons_self ?_
      refine .entry rfl (fun _ => rfl) (List.mem_cons_of_mem _ List.mem_cons_self) ?_
      exact .operator rfl nofun (hsource _ rfl rfl)
    have hnin : Written .query operand .listed "y" "" := by
      refine .entry rfl nofun List.mem_cons_self ?_
      refine .entry rfl (fun _ => rfl) List.mem_cons_self ?_
      exact .member (List.mem_singleton_self _)
    obtain ⟨-, p, hp⟩ := haccepted "x" "s" hnot
    exact ⟨c, rfl, ⟨p, hp, (hcompiled p).mpr ⟨"x", "s", hnot, hp⟩⟩, (hkept "y" "").mp hnin⟩

/-- A parenthesis that is never closed, as a member: it is not refused, and since it matches
nothing, every string is unlike it. -/
theorem nin_keeps_broken_pattern :
    let operand : Value := .document [("$nin", .array [.regex "(" ""])]
    Written .query operand .listed "(" "" ∧ Pattern.compile "(" "" = .error .invalid ∧
      parse (.regex "(" "") = .error (.pattern .invalid) ∧
      ∃ c, parse operand = .ok c ∧ c.matches (.string "a") ∧ c.matches (.string "(") := by
  intro operand
  have hfault : Pattern.compile "(" "" = .error .invalid := by rfl
  refine ⟨?_, hfault, ?_, ⟨_, rfl, ?_, ?_⟩⟩
  · exact .entry rfl nofun List.mem_cons_self (.member (List.mem_singleton_self _))
  · simp [parse, Pattern.ofCondition, hfault, Except.mapError, bind, Except.bind]
  · decide +kernel
  · decide +kernel

end Condition

end DocUpdate
