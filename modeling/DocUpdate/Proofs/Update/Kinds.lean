import DocUpdate.Proofs.Update.Effect

/-!
# Kinds of errors

Reading an update document and applying it fail with errors of few kinds. Neither ever blames
the document, which only validating does.
-/

namespace DocUpdate

/-- Every error that may come is of one of these kinds. -/
def FailsWith {α : Type} (kinds : List ErrorKind) (x : Except UpdateError α) : Prop :=
  ∀ e, x = .error e → e.kind ∈ kinds

namespace FailsWith

variable {α β : Type} {kinds : List ErrorKind}

theorem ok (a : α) : FailsWith kinds (.ok a) := by
  rintro _ ⟨⟩

theorem error {e : UpdateError} (h : kinds.contains e.kind = true) :
    FailsWith kinds (.error e : Except _ α) := by
  rintro _ ⟨⟩
  exact List.contains_iff_mem.mp h

theorem bind {x : Except UpdateError α} {f : α → Except UpdateError β} (hx : FailsWith kinds x)
    (hf : ∀ a, FailsWith kinds (f a)) : FailsWith kinds (x >>= f) := by
  intro e he
  rcases bind_error he with he | ⟨a, -, he⟩
  · exact hx e he
  · exact hf a e he

theorem map {x : Except UpdateError α} (hx : FailsWith kinds x) (f : α → β) :
    FailsWith kinds (x.map f) := fun e he => hx e (map_error he)

theorem mapError {ε : Type} {f : ε → UpdateError}
    (hf : ∀ fault, kinds.contains (f fault).kind = true) (x : Except ε α) :
    FailsWith kinds (x.mapError f) := by
  cases x with
  | ok a => exact ok a
  | error fault => exact error (hf fault)

theorem mapM {f : α → Except UpdateError β} (hf : ∀ a, FailsWith kinds (f a)) (xs : List α) :
    FailsWith kinds (xs.mapM f) := by
  induction xs with
  | nil => exact ok []
  | cons x rest ih =>
    rw [List.mapM_cons]
    exact (hf x).bind fun y => ih.bind fun ys => ok (y :: ys)

theorem foldlM {f : β → α → Except UpdateError β} (hf : ∀ b a, FailsWith kinds (f b a))
    (xs : List α) (b : β) : FailsWith kinds (xs.foldlM f b) := by
  induction xs generalizing b with
  | nil => exact ok b
  | cons x rest ih =>
    rw [List.foldlM_cons]
    exact (hf b x).bind ih

end FailsWith

/-! ## Reading -/

/-- What can be wrong with an update document. -/
def readKinds : List ErrorKind :=
  [.unknownOperator, .emptySpec, .conflictingOperators, .invalidPath, .unsupportedPath,
    .unsupportedRename, .invalidOperand]

theorem Path.ofText_failsWith (text : String) : FailsWith readKinds (ofText text) := by
  refine .mapError (fun fault => ?_) _
  cases fault <;> rfl

namespace Action

theorem refuse_failsWith {α : Type} (op : Operator) (path : Path) (fault : OperandFault) :
    FailsWith readKinds (refuse op path fault : Except UpdateError α) := .error rfl

variable (path : Path) (operand : Value)

theorem readNumber_failsWith (op : Operator) :
    FailsWith readKinds (readNumber op path operand) := by
  unfold readNumber
  split
  · exact .ok _
  · exact refuse_failsWith _ _ _

theorem readPop_failsWith : FailsWith readKinds (readPop path operand) := by
  unfold readPop
  split
  · split
    · exact .ok _
    · exact .ok _
    · exact refuse_failsWith _ _ _
  · exact refuse_failsWith _ _ _

theorem readDateKind_failsWith : FailsWith readKinds (readDateKind path operand) := by
  unfold readDateKind
  split
  · exact .ok _
  · split
    · exact .ok _
    · exact .ok _
    · exact refuse_failsWith _ _ _
  · exact refuse_failsWith _ _ _

theorem readRename_failsWith : FailsWith readKinds (readRename path operand) := by
  unfold readRename
  split
  · refine .bind (Path.ofText_failsWith _) fun target => ?_
    split
    · exact .error rfl
    · split
      · exact .error rfl
      · exact .ok _
  · exact refuse_failsWith _ _ _

theorem readBitStep_failsWith (field : String × Value) :
    FailsWith readKinds (readBitStep path field) := by
  unfold readBitStep
  split
  · exact refuse_failsWith _ _ _
  · split
    · exact .ok _
    · exact .ok _
    · exact refuse_failsWith _ _ _

theorem readBit_failsWith : FailsWith readKinds (readBit path operand) := by
  unfold readBit
  split
  · exact .mapM (readBitStep_failsWith path) _
  · exact refuse_failsWith _ _ _

theorem readEach_failsWith (op : Operator) : FailsWith readKinds (readEach op path operand) := by
  unfold readEach
  split
  · exact .ok _
  · exact refuse_failsWith _ _ _

theorem readAddToSet_failsWith : FailsWith readKinds (readAddToSet path operand) := by
  unfold readAddToSet
  split
  · split
    · exact .ok _
    · split
      · exact readEach_failsWith _ _ _
      · exact refuse_failsWith _ _ _
  · exact .ok _

theorem readInteger_failsWith (modifier : String) :
    FailsWith readKinds (readInteger path modifier operand) := by
  unfold readInteger
  split
  · exact .ok _
  · exact refuse_failsWith _ _ _

theorem readSortKey_failsWith (field : String × Value) :
    FailsWith readKinds (readSortKey path field) := by
  unfold readSortKey
  refine .bind (Path.ofText_failsWith _) fun key => ?_
  split
  · exact .ok _
  · exact refuse_failsWith _ _ _

theorem readSort_failsWith : FailsWith readKinds (readSort path operand) := by
  unfold readSort
  split
  · exact .ok _
  · split
    · exact .map (.mapM (readSortKey_failsWith path) _) _
    · exact refuse_failsWith _ _ _

theorem readModifier_failsWith (items : Push) (field : String × Value) :
    FailsWith readKinds (readModifier path items field) := by
  unfold readModifier
  split
  · exact .map (readEach_failsWith _ _ _) _
  · exact .map (readInteger_failsWith _ _ _) _
  · exact .map (readInteger_failsWith _ _ _) _
  · exact .map (readSort_failsWith _ _) _
  · exact refuse_failsWith _ _ _

theorem readPush_failsWith : FailsWith readKinds (readPush path operand) := by
  unfold readPush
  split
  · split
    · exact .foldlM (readModifier_failsWith path) _ _
    · exact .ok _
  · exact .ok _

theorem readPullAll_failsWith : FailsWith readKinds (readPullAll path operand) := by
  unfold readPullAll
  split
  · exact .ok _
  · exact refuse_failsWith _ _ _

theorem read_failsWith (op : Operator) : FailsWith readKinds (read op path operand) := by
  cases op
  case set | unset | setOnInsert | min | max => exact .ok _
  case currentDate => exact .map (readDateKind_failsWith path operand) _
  case inc | mul => exact .map (readNumber_failsWith path operand _) _
  case rename => exact .map (readRename_failsWith path operand) _
  case bit => exact .map (readBit_failsWith path operand) _
  case addToSet => exact .map (readAddToSet_failsWith path operand) _
  case push => exact .map (readPush_failsWith path operand) _
  case pop => exact .map (readPop_failsWith path operand) _
  case pull =>
    refine .map (.mapError (fun fault => ?_) _) _
    rfl
  case pullAll => exact .map (readPullAll_failsWith path operand) _

end Action

namespace UpdateSpec

theorem readEntry_failsWith (op : Operator) (field : String × Value) :
    FailsWith readKinds (readEntry op field) :=
  .bind (Path.ofText_failsWith _) fun path =>
    .bind (Action.read_failsWith path field.2 op) fun _ => .ok _

theorem readModifier_failsWith (field : String × Value) :
    FailsWith readKinds (readModifier field) := by
  unfold readModifier
  split
  · exact .error rfl
  · split
    · exact .mapM (readEntry_failsWith _) _
    · exact .error rfl

theorem checkConflicts_failsWith (claimed : List Path) (ms : List Mutation) :
    FailsWith readKinds (checkConflicts claimed ms) := by
  induction ms generalizing claimed with
  | nil => exact .ok ()
  | cons m rest ih =>
    rw [checkConflicts]
    split
    · exact .error rfl
    · exact ih _

/-- Reading an update document finds fault with the update document only. -/
theorem parse_failsWith (spec : Fields) : FailsWith readKinds (parse spec) := by
  unfold parse
  split
  · exact .error rfl
  · split
    · exact .error rfl
    · exact .bind (.mapM readModifier_failsWith _) fun groups =>
        .bind (checkConflicts_failsWith _ _) fun _ => .ok _

end UpdateSpec

/-! ## Applying -/

namespace Mutation

theorem apply_error_kind {options : Options} {m : Mutation} (hm : m.RenamesTop)
    {doc after : Fields} {e : UpdateError} (h : m.apply options doc = .error e after) :
    e.kind ∈ applyKinds := by
  rw [apply_eq hm] at h
  exact (gives_outcome options m (doc.place m.path)).kind_mem (Planned.run_eq_error.mp h).1

end Mutation

/-- Applying an update document finds fault with what stands at a path only. -/
theorem UpdateSpec.apply_error_kind {spec : Fields} {us : UpdateSpec} (h : parse spec = .ok us)
    {options : Options} {doc after : Fields} {e : UpdateError}
    (hfail : us.apply options doc = .error e after) : e.kind ∈ applyKinds := by
  obtain ⟨done, m, rest, changed, mid, hus, -, hm⟩ := applyAll_error hfail
  have hmem : m ∈ us.mutations := by rw [hus]; simp
  exact Mutation.apply_error_kind (renamesTop_of_parse h hmem) hm

end DocUpdate
