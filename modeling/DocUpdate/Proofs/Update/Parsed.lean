import DocUpdate.Proofs.Path.Frame
import DocUpdate.Proofs.Reading
import DocUpdate.Proofs.Value.Parts
import DocUpdate.Update.Reader

/-!
# What reading an update document promises

Two mutations of one update document never claim a place twice, and renames stay among the
fields of the document itself.
-/

namespace DocUpdate

namespace Mutation

/-- The mutations share no place. -/
def ApartFrom (m n : Mutation) : Prop := ∀ p ∈ m.claims, ∀ q ∈ n.claims, p.Apart q

theorem ApartFrom.symm {m n : Mutation} (h : m.ApartFrom n) : n.ApartFrom m :=
  fun p hp q hq => (h q hq p hp).symm

theorem path_mem_claims (m : Mutation) : m.path ∈ m.claims := by
  unfold claims
  split <;> simp

/-- A rename is among the fields of the document itself, and not to the same field. -/
def RenamesTop (m : Mutation) : Prop :=
  ∀ target, m.action = .rename target →
    m.path.tail = [] ∧ target.tail = [] ∧ m.path.Apart target

end Mutation

/-! ## Operands -/

/-- What is read for an operator belongs to it. -/
theorem Action.operator_of_read {op : Operator} {path : Path} {operand : Value} {action : Action}
    (h : read op path operand = .ok action) : action.operator = op := by
  cases op
  case set | unset | setOnInsert | min | max =>
    cases h
    rfl
  all_goals
    obtain ⟨operand, -, rfl⟩ := map_ok h
    rfl

theorem Action.isNumeric_of_readNumber {op : Operator} {path : Path} {operand number : Value}
    (h : readNumber op path operand = .ok number) : number.isNumeric := by
  unfold readNumber at h
  split at h
  · rename_i hnumeric
    cases h
    exact hnumeric
  · cases h

/-! ## Renames -/

theorem Action.readRename_ok {source target : Path} {operand : Value}
    (h : readRename source operand = .ok target) :
    source.tail = [] ∧ target.tail = [] ∧ source.Apart target := by
  unfold readRename at h
  split at h
  · obtain ⟨read, -, h⟩ := bind_ok h
    split at h
    · cases h
    · rename_i htop
      split at h
      · cases h
      · rename_i hover
        cases h
        simp only [Bool.or_eq_true, Bool.not_eq_true', List.isEmpty_eq_false_iff, not_or,
          not_not] at htop
        exact ⟨htop.1, htop.2, Bool.eq_false_iff.mpr hover⟩
  · cases h

theorem Action.rename_of_read {op : Operator} {path target : Path} {operand : Value}
    (h : read op path operand = .ok (.rename target)) :
    readRename path operand = .ok target := by
  obtain rfl := operator_of_read h
  obtain ⟨read, hread, hrename⟩ := map_ok h
  cases hrename
  exact hread

namespace UpdateSpec

/-! ## Entries -/

theorem read_of_readEntry {op : Operator} {field : String × Value} {m : Mutation}
    (h : readEntry op field = .ok m) : Action.read op m.path field.2 = .ok m.action := by
  obtain ⟨path, -, h⟩ := bind_ok h
  obtain ⟨action, haction, h⟩ := bind_ok h
  cases h
  exact haction

theorem read_of_readModifier {field : String × Value} {ms : List Mutation}
    (h : readModifier field = .ok ms) {m : Mutation} (hm : m ∈ ms) :
    ∃ op operand, field.2.Contains operand ∧ Action.read op m.path operand = .ok m.action := by
  unfold readModifier at h
  split at h
  · cases h
  · split at h
    · rename_i fields hfields
      obtain ⟨entry, hentry, hread⟩ := mem_of_mapM_ok h hm
      rw [hfields]
      exact ⟨_, _, .field hentry (.self _), read_of_readEntry hread⟩
    · cases h

/-! ## Conflicts -/

theorem firstConflict_eq_none_iff {claimed paths : List Path} :
    firstConflict claimed paths = none ↔ ∀ p ∈ claimed, ∀ q ∈ paths, p.Apart q := by
  induction paths with
  | nil => simp [firstConflict]
  | cons path rest ih =>
    have hfind : claimed.find? (·.overlaps path) = none ↔ ∀ p ∈ claimed, p.Apart path := by
      rw [List.find?_eq_none]
      exact forall₂_congr fun p _ => by rw [Path.Apart, Bool.not_eq_true]
    rw [firstConflict]
    constructor
    · intro h p hp q hq
      split at h
      · cases h
      · rename_i hnone
        rcases List.mem_cons.mp hq with rfl | hq
        · exact hfind.mp hnone p hp
        · exact ih.mp h p hp q hq
    · intro h
      rw [hfind.mpr fun p hp => h p hp path (by simp)]
      exact ih.mpr fun p hp q hq => h p hp q (by simp [hq])

/-- No path that is claimed is met by one claimed later, and the mutations are apart. -/
theorem checkConflicts_ok_iff {claimed : List Path} {ms : List Mutation} :
    checkConflicts claimed ms = .ok () ↔
      (∀ p ∈ claimed, ∀ m ∈ ms, ∀ q ∈ m.claims, p.Apart q) ∧ ms.Pairwise Mutation.ApartFrom := by
  induction ms generalizing claimed with
  | nil => simp [checkConflicts]
  | cons m rest ih =>
    rw [checkConflicts]
    constructor
    · intro h
      split at h
      · cases h
      · rename_i hfirst
        obtain ⟨hclaimed, hrest⟩ := ih.mp h
        refine ⟨fun p hp n hn q hq => ?_, List.pairwise_cons.mpr ⟨fun n hn p hp => ?_, hrest⟩⟩
        · rcases List.mem_cons.mp hn with rfl | hn
          · exact firstConflict_eq_none_iff.mp hfirst p hp q hq
          · exact hclaimed p (List.mem_append_left _ hp) n hn q hq
        · exact hclaimed p (List.mem_append_right _ hp) n hn
    · rintro ⟨hclaimed, hms⟩
      obtain ⟨hm, hrest⟩ := List.pairwise_cons.mp hms
      have hfirst : firstConflict claimed m.claims = none :=
        firstConflict_eq_none_iff.mpr fun p hp => hclaimed p hp m (by simp)
      rw [hfirst]
      refine ih.mpr ⟨fun p hp n hn => ?_, hrest⟩
      rcases List.mem_append.mp hp with hp | hp
      · exact hclaimed p hp n (by simp [hn])
      · exact hm n hn p hp

/-! ## Update documents -/

theorem parse_ok {spec : Fields} {us : UpdateSpec} (h : parse spec = .ok us) :
    (∃ groups, spec.mapM readModifier = .ok groups ∧ us.mutations = groups.flatten) ∧
      checkConflicts [] us.mutations = .ok () := by
  unfold parse at h
  split at h
  · cases h
  · split at h
    · cases h
    · obtain ⟨groups, hgroups, h⟩ := bind_ok h
      obtain ⟨⟨⟩, hcheck, h⟩ := bind_ok h
      cases h
      exact ⟨⟨groups, hgroups, rfl⟩, hcheck⟩

/-- What a mutation does was read from an operand that stands in the update document. -/
theorem read_inside_of_parse {spec : Fields} {us : UpdateSpec} (h : parse spec = .ok us)
    {m : Mutation} (hm : m ∈ us.mutations) : ∃ op operand,
      (Value.document spec).Contains operand ∧ Action.read op m.path operand = .ok m.action := by
  obtain ⟨⟨groups, hgroups, hus⟩, -⟩ := parse_ok h
  rw [hus] at hm
  obtain ⟨ms, hms, hm⟩ := List.mem_flatten.mp hm
  obtain ⟨field, hfield, hread⟩ := mem_of_mapM_ok hgroups hms
  obtain ⟨op, operand, hinside, hread⟩ := read_of_readModifier hread hm
  exact ⟨op, operand, .field hfield hinside, hread⟩

theorem read_of_parse {spec : Fields} {us : UpdateSpec} (h : parse spec = .ok us) {m : Mutation}
    (hm : m ∈ us.mutations) : ∃ op operand, Action.read op m.path operand = .ok m.action := by
  obtain ⟨op, operand, -, hread⟩ := read_inside_of_parse h hm
  exact ⟨op, operand, hread⟩

theorem renamesTop_of_parse {spec : Fields} {us : UpdateSpec} (h : parse spec = .ok us)
    {m : Mutation} (hm : m ∈ us.mutations) : m.RenamesTop := by
  obtain ⟨op, operand, hread⟩ := read_of_parse h hm
  intro target htarget
  rw [htarget] at hread
  exact Action.readRename_ok (Action.rename_of_read hread)

theorem pairwise_apart_of_parse {spec : Fields} {us : UpdateSpec} (h : parse spec = .ok us) :
    us.mutations.Pairwise Mutation.ApartFrom := (checkConflicts_ok_iff.mp (parse_ok h).2).2

end UpdateSpec

end DocUpdate
