import Mathlib.Logic.Relation
import DocUpdate.Proofs.Condition.Reading
import DocUpdate.Proofs.Value.Alignment
import DocUpdate.Proofs.Value.Names

/-!
# The order in which a condition is written

Entries of queries and of operator documents, clauses, and members of lists may be written in any
order. A single change of order is read to an agreeing result by the function that reads the place
where it happens, and the functions around it pass the agreement on.
-/

namespace DocUpdate

/-! ## Lists that are alike -/

section

variable {α β : Type} {f : α → β} {xs ys : List α}

/-- The same members in some order, as far as `f` tells them apart. -/
def Alike (f : α → β) (xs ys : List α) : Prop := (xs.map f).Perm (ys.map f)

namespace Alike

theorem of_perm (h : xs.Perm ys) : Alike f xs ys := h.map f

theorem of_forall₂ (h : List.Forall₂ (fun x y => f x = f y) xs ys) : Alike f xs ys := by
  rw [Alike, map_eq_of_forall₂ h]

theorem isEmpty_eq (h : Alike f xs ys) : xs.isEmpty = ys.isEmpty := by
  rw [← List.isEmpty_map (f := f), List.Perm.isEmpty_eq h, List.isEmpty_map]

theorem all_eq (h : Alike f xs ys) (p : β → Bool) :
    xs.all (fun x => p (f x)) = ys.all fun y => p (f y) := by
  simpa only [List.all_map, Function.comp_def] using List.Perm.all_eq (f := p) h

theorem any_eq (h : Alike f xs ys) (p : β → Bool) :
    xs.any (fun x => p (f x)) = ys.any fun y => p (f y) := by
  simpa only [List.any_map, Function.comp_def] using List.Perm.any_eq (f := p) h

theorem reduceOption {xs ys : List (Option α)} (h : Alike (Option.map f) xs ys) :
    Alike f xs.reduceOption ys.reduceOption := by
  rw [Alike, ← List.reduceOption_map, ← List.reduceOption_map]
  exact h.filterMap id

/-- Readers that refuse an empty list. -/
theorem agree_nonempty {ε : Type} (h : Alike f xs ys) (e : ε) :
    Agree (Alike f) (if xs.isEmpty then .error e else return xs)
      (if ys.isEmpty then .error e else return ys) := by
  rw [h.isEmpty_eq]
  split
  · exact .error e e
  · exact .ok h

end Alike

end

/-! ## Fields in another order -/

namespace Fields

theorem get?_eq_some_iff {fields : Fields} (h : fields.keys.Nodup) {key : String} {v : Value} :
    fields.get? key = some v ↔ (key, v) ∈ fields :=
  ⟨get?_mem, fun hmem => Value.get?_of_nodup h hmem⟩

theorem keys_perm {xs ys : Fields} (h : xs.Perm ys) : xs.keys.Perm ys.keys := h.map _

theorem get?_perm {xs ys : Fields} (hnames : xs.keys.Nodup) (h : xs.Perm ys) (key : String) :
    xs.get? key = ys.get? key := by
  have hnames' : ys.keys.Nodup := (keys_perm h).nodup_iff.mp hnames
  ext v
  rw [get?_eq_some_iff hnames, get?_eq_some_iff hnames', h.mem_iff]

theorem get?_replaced {name key : String} {v w : Value} (h : name = key → v = w)
    (before after : Fields) :
    get? (before ++ (name, v) :: after) key = get? (before ++ (name, w) :: after) key := by
  induction before with
  | nil =>
    rw [List.nil_append, List.nil_append, get?_cons, get?_cons]
    split
    · rename_i hname
      rw [h hname]
    · rfl
  | cons field rest ih =>
    rw [List.cons_append, List.cons_append, get?_cons, get?_cons, ih]

end Fields

/-! ## Places in a condition -/

namespace Condition

/-- What a value inside a condition is read as. -/
inductive Role where
  /-- A query, or operators on the item itself. -/
  | query
  /-- What a query asks of a field: operators, or a value to compare with. -/
  | field
  /-- What is negated. -/
  | operators
  | clauses
  | members
  | literal
deriving DecidableEq

namespace Role

/-- The role of the value that an entry of this name holds. -/
def ofName (name : String) : Role :=
  if name = "$and" ∨ name = "$or" then clauses
  else if name = "$in" ∨ name = "$nin" then members
  else if name = "$not" then operators
  else if startsWithDollar name then literal
  else field

theorem ofName_of_plain {name : String} (h : startsWithDollar name = false) :
    ofName name = field := by
  have hne {operator : String} (hoperator : startsWithDollar operator = true) :
      name ≠ operator := ne_of_plain h hoperator
  unfold ofName
  rw [if_neg (not_or.mpr ⟨hne (by decide), hne (by decide)⟩),
    if_neg (not_or.mpr ⟨hne (by decide), hne (by decide)⟩), if_neg (hne (by decide)),
    if_neg (by simp [h])]

/-- Documents in this role are read entry by entry. -/
def hasEntries : Role → Bool
  | query | field | operators => true
  | clauses | members | literal => false

end Role

/-- Two values in a role differ by one change of order somewhere inside. -/
inductive Reordered : Role → Value → Value → Prop where
  -- What a field is asked for is a value to compare with unless its names are operators. A list
  -- of fields could repeat a name, a document cannot.
  | entries {role : Role} {xs ys : Fields} (hrole : role.hasEntries)
      (hfield : role = .field → ∀ entry ∈ xs, startsWithDollar entry.1)
      (hnames : xs.keys.Nodup) (h : xs.Perm ys) : Reordered role (.document xs) (.document ys)
  | entry {role : Role} {before after : Fields} {name : String} {v w : Value}
      (hrole : role.hasEntries)
      (hfield : role = .field → hasOperators (before ++ (name, v) :: after))
      (h : Reordered (Role.ofName name) v w) :
      Reordered role (.document (before ++ (name, v) :: after))
        (.document (before ++ (name, w) :: after))
  | items {role : Role} {xs ys : List Value} (hrole : role = .clauses ∨ role = .members)
      (h : xs.Perm ys) : Reordered role (.array xs) (.array ys)
  | clause {before after : List Value} {v w : Value} (h : Reordered .query v w) :
      Reordered .clauses (.array (before ++ v :: after)) (.array (before ++ w :: after))

/-- Two values in a role are read to results that agree. -/
def Role.ReadsAlike : Role → Value → Value → Prop
  | query, v, w => Agree (fun c c' => c.matches = c'.matches) (parse v) (parse w) ∧
      Agree (fun q q' => q.holds = q'.holds) (Query.readClause v) (Query.readClause w)
  | field, v, w => Agree (Alike Predicate.holds) (Predicate.readField v) (Predicate.readField w)
  | operators, v, w =>
      Agree (Alike Predicate.holds) (Predicate.readNegation v) (Predicate.readNegation w)
  | clauses, v, w => Agree (Alike Query.holds) (Query.readClauses v) (Query.readClauses w)
  | members, v, w =>
      ∀ name, Agree List.Perm (Predicate.listOperand name v) (Predicate.listOperand name w)
  | literal, v, w => v = w

end Condition

/-! ## One entry -/

namespace Predicate

theorem holds_negation_congr {ps ps' : List Predicate} (h : Alike holds ps ps') :
    (negation ps).holds = (negation ps').holds := by
  funext found
  rw [holds_negation, holds_negation, h.all_eq fun test => test found]

theorem holds_oneOf_perm {ws ws' : List Value} (h : ws.Perm ws') :
    (oneOf ws).holds = (oneOf ws').holds := by
  funext found
  have hmember : (fun x => ws.any (isMember x)) = fun x => ws'.any (isMember x) :=
    funext fun x => h.any_eq
  rw [holds, holds, hmember, h.any_eq]

theorem holds_noneOf_perm {ws ws' : List Value} (h : ws.Perm ws') :
    (noneOf ws).holds = (noneOf ws').holds := by
  funext found
  exact congrArg not (congrFun (holds_oneOf_perm h) found)

/-- A pattern looks at the other entries for its text and its options, no other entry does. -/
theorem readEntry_congr {xs ys : Fields} (htext : xs.get? "$regex" = ys.get? "$regex")
    (hoptions : xs.get? "$options" = ys.get? "$options") : readEntry xs = readEntry ys := by
  funext entry
  unfold readEntry readSimple readPattern optionsOf Fields.contains
  rw [htext, hoptions]

theorem agree_readEntry {name : String} {v w : Value}
    (h : (Condition.Role.ofName name).ReadsAlike v w) (fields : Fields) :
    Agree (fun p p' => p.map holds = p'.map holds)
      (readEntry fields (name, v)) (readEntry fields (name, w)) := by
  unfold Condition.Role.ofName at h
  split at h
  case isTrue hclauses =>
    rcases hclauses with rfl | rfl <;> exact .error _ _
  split at h
  case isTrue hmembers =>
    rcases hmembers with rfl | rfl
    · exact (h "$in").map fun _ _ hws => congrArg some (holds_oneOf_perm hws)
    · exact (h "$nin").map fun _ _ hws => congrArg some (holds_noneOf_perm hws)
  split at h
  case isTrue hnot =>
    subst hnot
    exact Agree.map h fun _ _ hps => congrArg some (holds_negation_congr hps)
  split at h
  case isTrue =>
    cases h
    apply Agree.refl
    exact fun _ => rfl
  case isFalse hdollar =>
    rw [readEntry_of_plain (by simpa using hdollar), readEntry_of_plain (by simpa using hdollar)]
    exact .error _ _

end Predicate

namespace Query

theorem holds_and_congr {qs qs' : List Query} (h : Alike holds qs qs') :
    (and qs).holds = (and qs').holds := by
  funext doc
  rw [holds_and, holds_and, h.all_eq fun test => test doc]

theorem holds_or_congr {qs qs' : List Query} (h : Alike holds qs qs') :
    (or qs).holds = (or qs').holds := by
  funext doc
  rw [holds_or, holds_or, h.any_eq fun test => test doc]

theorem holds_ofParts_congr {qs qs' : List Query} (h : Alike holds qs qs') :
    (ofParts qs).holds = (ofParts qs').holds := by
  funext doc
  rw [holds_ofParts, holds_ofParts, h.all_eq fun test => test doc]

theorem holds_field_congr {path : Path} {ps ps' : List Predicate}
    (h : Alike Predicate.holds ps ps') : (field path ps).holds = (field path ps').holds := by
  funext doc
  rw [holds_field, holds_field, h.all_eq fun test => test (doc.readOrMissing path)]

theorem agree_readEntry {name : String} {v w : Value}
    (h : (Condition.Role.ofName name).ReadsAlike v w) :
    Agree (fun q q' => q.holds = q'.holds) (readEntry (name, v)) (readEntry (name, w)) := by
  by_cases hand : name = "$and"
  · subst hand
    exact Agree.map h fun _ _ => holds_and_congr
  by_cases hor : name = "$or"
  · subst hor
    exact Agree.map h fun _ _ => holds_or_congr
  cases hdollar : startsWithDollar name with
  | true =>
    rw [readEntry_of_operator hdollar hand hor, readEntry_of_operator hdollar hand hor]
    exact .error _ _
  | false =>
    rw [Condition.Role.ofName_of_plain hdollar] at h
    rw [readEntry_of_plain hdollar, readEntry_of_plain hdollar]
    unfold readField
    refine Agree.bind (r := Eq) (.refl (fun _ => rfl) _) ?_
    rintro path _ rfl
    exact Agree.bind h fun _ _ hps => .ok (holds_field_congr hps)

end Query

/-! ## The entries of a document -/

namespace Condition

/-- Two documents have the same names, and their entries are read to results that agree. -/
structure EntriesAlike (xs ys : Fields) : Prop where
  keys : xs.keys.Perm ys.keys
  predicates : Agree (Alike Predicate.holds) (Predicate.readEntries xs xs)
    (Predicate.readEntries ys ys)
  queries : Agree (Alike Query.holds) (Query.readEntries xs) (Query.readEntries ys)

theorem entriesAlike_of_perm {xs ys : Fields} (hnames : xs.keys.Nodup) (h : xs.Perm ys) :
    EntriesAlike xs ys where
  keys := Fields.keys_perm h
  predicates := by
    have hentry : Predicate.readEntry xs = Predicate.readEntry ys :=
      Predicate.readEntry_congr (Fields.get?_perm hnames h _) (Fields.get?_perm hnames h _)
    rw [Predicate.readEntries_eq_mapM, Predicate.readEntries_eq_mapM, hentry]
    exact (agree_mapM_of_perm h).map fun _ _ hps => (Alike.of_perm hps).reduceOption
  queries := by
    rw [Query.readEntries_eq_mapM, Query.readEntries_eq_mapM]
    exact (agree_mapM_of_perm h).mono fun _ _ => .of_perm

/-- A pattern and its options have no order inside, so it is the entry of another name that
changes. -/
theorem entriesAlike_of_entry {name : String} {v w : Value}
    (h : (Role.ofName name).ReadsAlike v w) (before after : Fields) :
    EntriesAlike (before ++ (name, v) :: after) (before ++ (name, w) :: after) where
  keys := by
    simp [Fields.keys]
  predicates := by
    have hliteral {key : String} (hkey : Role.ofName key = .literal) (hname : name = key) :
        v = w := by
      rwa [hname, hkey] at h
    have hentry : Predicate.readEntry (before ++ (name, v) :: after) =
        Predicate.readEntry (before ++ (name, w) :: after) :=
      Predicate.readEntry_congr (Fields.get?_replaced (hliteral (by decide)) before after)
        (Fields.get?_replaced (hliteral (by decide)) before after)
    rw [Predicate.readEntries_eq_mapM, Predicate.readEntries_eq_mapM, hentry]
    exact (agree_mapM_replaced (Predicate.agree_readEntry h _) (fun _ => rfl) before after).map
      fun _ _ hps => (Alike.of_forall₂ hps).reduceOption
  queries := by
    rw [Query.readEntries_eq_mapM, Query.readEntries_eq_mapM]
    exact (agree_mapM_replaced (Query.agree_readEntry h) (fun _ => rfl) before after).mono
      fun _ _ => .of_forall₂

theorem EntriesAlike.readAll {xs ys : Fields} (h : EntriesAlike xs ys) :
    Agree (Alike Predicate.holds) (Predicate.readAll xs) (Predicate.readAll ys) :=
  h.predicates.bind fun _ _ hps => hps.agree_nonempty _

theorem EntriesAlike.read {xs ys : Fields} (h : EntriesAlike xs ys) :
    Agree (fun q q' => q.holds = q'.holds) (Query.read xs) (Query.read ys) :=
  h.queries.map fun _ _ => Query.holds_ofParts_congr

theorem EntriesAlike.nil_iff {xs ys : Fields} (h : EntriesAlike xs ys) : xs = [] ↔ ys = [] := by
  have hempty : xs.keys.isEmpty = ys.keys.isEmpty := h.keys.isEmpty_eq
  rw [Fields.keys, Fields.keys, List.isEmpty_map, List.isEmpty_map] at hempty
  rw [← List.isEmpty_iff, ← List.isEmpty_iff, hempty]

theorem EntriesAlike.readNegation {xs ys : Fields} (h : EntriesAlike xs ys) :
    Role.operators.ReadsAlike (.document xs) (.document ys) := by
  by_cases hxs : xs = []
  · rw [hxs, h.nil_iff.mp hxs]
    exact .error _ _
  · rw [Role.ReadsAlike, Predicate.readNegation_document hxs,
      Predicate.readNegation_document (mt h.nil_iff.mpr hxs)]
    exact h.readAll

theorem EntriesAlike.readClause {xs ys : Fields} (h : EntriesAlike xs ys) :
    Agree (fun q q' => q.holds = q'.holds) (Query.readClause (.document xs))
      (Query.readClause (.document ys)) := by
  by_cases hxs : xs = []
  · rw [hxs, h.nil_iff.mp hxs]
    exact .error _ _
  · obtain ⟨x, xs, rfl⟩ := List.exists_cons_of_ne_nil hxs
    obtain ⟨y, ys, rfl⟩ := List.exists_cons_of_ne_nil (mt h.nil_iff.mpr hxs)
    exact h.read

theorem EntriesAlike.parse {xs ys : Fields} (h : EntriesAlike xs ys) :
    Agree (fun c c' => c.matches = c'.matches) (parse (.document xs)) (parse (.document ys)) := by
  by_cases hxs : xs = []
  · rw [hxs, h.nil_iff.mp hxs]
    apply Agree.refl
    exact fun _ => rfl
  rw [parse_document hxs, parse_document (mt h.nil_iff.mpr hxs), h.keys.all_eq]
  split
  · refine h.readAll.map fun ps ps' hps => ?_
    funext item
    simp only [Condition.matches, Predicate.allHold_eq_all]
    exact hps.all_eq fun test => test (some item)
  · refine h.read.map fun q q' hq => ?_
    funext item
    cases item
    case document doc => exact congrFun hq doc
    all_goals rfl

theorem EntriesAlike.readField {xs ys : Fields} (h : EntriesAlike xs ys) (hxs : hasOperators xs)
    (hys : hasOperators ys) : Role.field.ReadsAlike (.document xs) (.document ys) := by
  rw [Role.ReadsAlike, Predicate.readField, Predicate.readField, if_pos hxs, if_pos hys]
  exact h.readAll

theorem readsAlike_clauses {xs ys : List Value}
    (h : Agree (Alike Query.holds) (xs.mapM Query.readClause) (ys.mapM Query.readClause)) :
    Role.clauses.ReadsAlike (.array xs) (.array ys) := by
  rw [Role.ReadsAlike, Query.readClauses_array, Query.readClauses_array]
  exact h.bind fun _ _ hqs => hqs.agree_nonempty _

/-! ## One change of order -/

theorem hasOperators_of_all {fields : Fields} (hne : fields ≠ [])
    (h : ∀ entry ∈ fields, startsWithDollar entry.1) : hasOperators fields := by
  obtain ⟨first, rest, rfl⟩ := List.exists_cons_of_ne_nil hne
  exact h first List.mem_cons_self

theorem hasOperators_replaced (before after : Fields) (name : String) (v w : Value) :
    hasOperators (before ++ (name, v) :: after) = hasOperators (before ++ (name, w) :: after) := by
  cases before <;> rfl

theorem readsAlike_operators {xs ys : Fields} (hdollar : ∀ entry ∈ xs, startsWithDollar entry.1)
    (hperm : xs.Perm ys) (h : EntriesAlike xs ys) :
    Role.field.ReadsAlike (.document xs) (.document ys) := by
  by_cases hxs : xs = []
  · rw [hxs, h.nil_iff.mp hxs]
    apply Agree.refl
    exact fun _ => .of_perm (.refl _)
  · have hys : ys ≠ [] := mt h.nil_iff.mpr hxs
    exact h.readField (hasOperators_of_all hxs hdollar)
      (hasOperators_of_all hys fun entry hentry => hdollar entry (hperm.mem_iff.mpr hentry))

theorem Reordered.readsAlike {role : Role} {v w : Value} (h : Reordered role v w) :
    role.ReadsAlike v w := by
  induction h with
  | @entries role xs ys hrole hfield hnames hperm =>
    have hentries := entriesAlike_of_perm hnames hperm
    cases role with
    | query => exact ⟨hentries.parse, hentries.readClause⟩
    | operators => exact hentries.readNegation
    | field => exact readsAlike_operators (hfield rfl) hperm hentries
    | clauses | members | literal => cases hrole
  | @entry role before after name v w hrole hfield _ ih =>
    have hentries := entriesAlike_of_entry ih before after
    cases role with
    | query => exact ⟨hentries.parse, hentries.readClause⟩
    | operators => exact hentries.readNegation
    | field =>
      have hbefore := hfield rfl
      have hafter := hbefore
      rw [hasOperators_replaced before after name v w] at hafter
      exact hentries.readField hbefore hafter
    | clauses | members | literal => cases hrole
  | items hrole hperm =>
    rcases hrole with rfl | rfl
    · exact readsAlike_clauses ((agree_mapM_of_perm hperm).mono fun _ _ => .of_perm)
    · exact fun _ => .ok hperm
  | clause _ ih =>
    exact readsAlike_clauses
      ((agree_mapM_replaced ih.2 (fun _ => rfl) _ _).mono fun _ _ => .of_forall₂)

/-- A condition written in another order is read if it is, and is met by the same items. -/
theorem matches_reordered {v w : Value} (h : Relation.ReflTransGen (Reordered .query) v w) :
    Agree (fun c c' => ∀ item, c.matches item = c'.matches item) (parse v) (parse w) := by
  induction h with
  | refl => exact .refl (fun _ _ => rfl) _
  | tail _ hstep ih =>
    have hlast := hstep.readsAlike.1
    exact ih.trans (fun _ _ _ h h' item => (h item).trans (h' item))
      (hlast.mono fun _ _ h item => congrFun h item)

/-- The clauses, a pattern and its options, and the members of a negated list change places. -/
theorem matches_of_swapped_clauses :
    let v : Value := .document
      [("$or", .array
        [.document [("a", .document [("$regex", .string "x"), ("$options", .string "s")])],
          .document [("b", .null)]]),
       ("c", .document [("$not", .document [("$in", .array [.int32 1, .int32 2])])])]
    let w : Value := .document
      [("$or", .array
        [.document [("b", .null)],
          .document [("a", .document [("$options", .string "s"), ("$regex", .string "x")])]]),
       ("c", .document [("$not", .document [("$in", .array [.int32 2, .int32 1])])])]
    Relation.ReflTransGen (Reordered .query) v w ∧ ∃ c c', parse v = .ok c ∧ parse w = .ok c' ∧
      ∀ item, c.matches item = c'.matches item := by
  intro v w
  have hclauses : Reordered .clauses
      (.array [.document [("a", .document [("$regex", .string "x"), ("$options", .string "s")])],
        .document [("b", .null)]])
      (.array [.document [("b", .null)],
        .document [("a", .document [("$regex", .string "x"), ("$options", .string "s")])]]) :=
    .items (.inl rfl) (.swap _ _ _)
  have hpattern : Reordered .query
      (.document [("a", .document [("$regex", .string "x"), ("$options", .string "s")])])
      (.document [("a", .document [("$options", .string "s"), ("$regex", .string "x")])]) :=
    @Reordered.entry .query [] [] "a" _ _ rfl nofun
      (.entries rfl (fun _ => by decide) (by decide) (.swap _ _ _))
  have hmembers : Reordered .field
      (.document [("$not", .document [("$in", .array [.int32 1, .int32 2])])])
      (.document [("$not", .document [("$in", .array [.int32 2, .int32 1])])]) :=
    @Reordered.entry .field [] [] "$not" _ _ rfl (fun _ => by decide)
      (@Reordered.entry .operators [] [] "$in" _ _ rfl nofun (.items (.inr rfl) (.swap _ _ _)))
  have h : Relation.ReflTransGen (Reordered .query) v w := by
    refine .head (@Reordered.entry .query [] [_] "$or" _ _ rfl nofun hclauses) ?_
    refine .head (@Reordered.entry .query [] [_] "$or" _ _ rfl nofun
      (@Reordered.clause [_] [] _ _ hpattern)) ?_
    exact .single (@Reordered.entry .query [_] [] "c" _ _ rfl nofun hmembers)
  have hread : (parse v).isOk = true := by decide +kernel
  have hagree := matches_reordered h
  generalize hv : parse v = read at hagree hread
  generalize hw : parse w = read' at hagree
  cases hagree with
  | ok hmatches => exact ⟨h, _, _, rfl, rfl, hmatches⟩
  | error => cases hread

end Condition

end DocUpdate
