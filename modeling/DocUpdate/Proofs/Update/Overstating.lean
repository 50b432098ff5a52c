import DocUpdate.Proofs.Path.Removing
import DocUpdate.Proofs.Update.Items
import DocUpdate.Proofs.Update.Repeat
import DocUpdate.Proofs.Value.Unlike

/-!
# Changes that are told of and not made

A mutation that tells of a change has made one, with two exceptions. Removing a null from an array
leaves a null, and a value with a NaN in it is written again although it stands there already.
-/

namespace DocUpdate

/-- What an action is going to store in place of a value after it has asked whether the two are
stored alike. -/
def Action.stored? (options : Options) (action : Action) (current : Value) : Option Value :=
  match action with
  | .set value => some value
  | .setOnInsert value => if options.isInsert then some value else none
  | .currentDate kind => some (Edit.dateValue kind options)
  | .inc amount => Value.arithmetic .add current amount
  | .mul factor => Value.arithmetic .mul current factor
  | .bit steps =>
    match current with
    | .int32 _ | .int64 _ => steps.foldlM Edit.bitStep? current
    | _ => none
  | .push p =>
    match current with
    | .array items =>
      if p.sort.isSome || p.slice.isSome then (p.result? items).map .array else none
    | _ => none
  | _ => none

/-- A null item is removed, or a value with a NaN in it is stored where it stands. -/
inductive Mutation.Overstates (options : Options) (m : Mutation) (doc : Fields) : Prop where
  | emptied {r : List Segment} {s : Segment} {items : List Value} (action : m.action = .unset)
      (found : doc.read m.path = .ok (some .null)) (split : m.path.segments = r ++ [s])
      (container : doc.reached r = some (.array items))
  | rewritten {v : Value} (found : doc.read m.path = .ok (some v))
      (stored : m.action.stored? options v = some v) (nan : v.HasNaN)

/-! ## Changes that are none -/

/-- In an array, taking an item away is putting a null in its place. -/
theorem Value.changeFrom_none_of_array {v : Value} {element : String} {r : List Segment}
    {items : List Value} (h : v.place element r = .found (array items)) (s : Segment) :
    changeFrom none (some v) (r ++ [s]) = changeFrom (some null) (some v) (r ++ [s]) := by
  induction r generalizing v element with
  | nil =>
    obtain rfl : v = array items := by simpa using h
    simp [changeFrom, alter]
  | cons t rest ih =>
    obtain ⟨part, hpart, hrest⟩ := place_cons_eq_found_iff.mp h
    have hput (new : Option Value) : changeFrom new (some v) (t :: rest ++ [s]) =
        some (v.alter t.name fun _ => changeFrom new (some part) (rest ++ [s])) := by
      rw [List.cons_append, changeFrom, Option.getD_some, alter_eq_put, hpart]
    rw [hput, hput, ih hrest]

namespace Fields

variable {doc : Fields} {p : Path} {v : Value}

/-- Putting a value is no change just where it is found already. -/
theorem change_eq_self_iff (h : (doc.place p).fault? = none) :
    doc.change ⟨p, some v⟩ = doc ↔ doc.place p = .found v := by
  constructor
  · intro hsame
    have hplace := place_change_self h v
    rwa [hsame] at hplace
  · exact change_of_found

/-- Removing is no change just where it is a null in an array that is removed. -/
theorem change_none_eq_self_iff (h : doc.place p = .found v) : doc.change ⟨p, none⟩ = doc ↔
    v = .null ∧ ∃ r s items, p.segments = r ++ [s] ∧ doc.reached r = some (.array items) := by
  constructor
  · intro hsame
    have hread : doc.read p = .ok (some v) := by rw [read_eq, h]; rfl
    have hemptied := emptied_change h
    rw [hsame] at hemptied
    cases hemptied with
    | field _ _ _ hmissing =>
      rw [hread] at hmissing
      cases hmissing
    | item hsplit hbefore _ _ hnull =>
      -- A null is read afterwards, so if nothing changed it was read before.
      rw [hread] at hnull
      cases hnull
      exact ⟨rfl, _, _, _, hsplit, hbefore⟩
  · rintro ⟨rfl, r, s, items, hsplit, hreached⟩
    rw [reached_eq doc "", Place.value?_eq_some_iff] at hreached
    have hnull : Value.changeFrom none (some (.document doc)) p.segments =
        Value.changeFrom (some .null) (some (.document doc)) p.segments := by
      rw [hsplit]
      exact Value.changeFrom_none_of_array hreached s
    have hsame : doc.change ⟨p, none⟩ = doc.change ⟨p, some .null⟩ :=
      Value.document.inj (Option.some.inj hnull)
    rw [hsame, change_of_found h]

end Fields

/-! ## Plans that tell of a change -/

namespace Mutation

variable {options : Options} {m : Mutation} {place : Place} {plan : Plan}

/-- What is found is going to be stored again, although it is not stored like itself. -/
def Restores (options : Options) (m : Mutation) (place : Place) : Prop :=
  ∃ v, place = .found v ∧ m.action.stored? options v = some v ∧ v.same v = false

/-- The plans that tell of a change, apart from removing. A value that is put stood there already
just where it is stored again. -/
inductive Told (options : Options) (m : Mutation) (place : Place) : Plan → Prop where
  | put {value : Value} (free : place.fault? = none)
      (again : place = .found value ↔ m.Restores options place) :
      Told options m place ⟨true, [⟨m.path, some value⟩]⟩
  | renamed {target : Path} {v : Value} (action : m.action = .rename target)
      (found : place = .found v) :
      Told options m place ⟨true, [⟨m.path, none⟩, ⟨target, none⟩, ⟨target, some v⟩]⟩

theorem told_put_new {value : Value} (hfree : place.fault? = none) (hnew : place ≠ .found value)
    (hstored : ∀ v, place = .found v → m.action.stored? options v ≠ some v) :
    m.Told options place ⟨true, [⟨m.path, some value⟩]⟩ := by
  refine .put hfree (iff_of_false hnew ?_)
  rintro ⟨v, hfound, hv, -⟩
  exact hstored v hfound hv

/-- Where nothing is found, what is put is new. -/
theorem told_put_missing {value : Value} (hnone : place.value? = none)
    (hfree : place.fault? = none) : m.Told options place ⟨true, [⟨m.path, some value⟩]⟩ :=
  have hmissing := Place.ne_found hnone
  told_put_new hfree (hmissing value) fun v hfound => absurd hfound (hmissing v)

theorem told_of_write {value : Value} (hnone : place.value? = none)
    (h : Planned.write m.path place value = .ok plan) : m.Told options place plan := by
  unfold Planned.write at h
  split at h
  · cases h
  · rename_i hfree
    cases h
    exact told_put_missing hnone hfree

theorem told_of_setValue {value : Value}
    (hstored : ∀ v, place = .found v → m.action.stored? options v = some value)
    (h : Planned.setValue m.path place value = .ok plan) (hchanged : plan.changed = true) :
    m.Told options place plan := by
  have hplan := Planned.forWrite_ok h
  split at hplan
  · rename_i current hfound
    obtain rfl := Place.value?_eq_some_iff.mp hfound
    have hstored := hstored current rfl
    split at hplan
    · cases hplan
      cases hchanged
    · rename_i hsame
      cases hplan
      refine .put rfl ⟨?_, ?_⟩
      · rintro ⟨⟩
        exact ⟨value, rfl, hstored, by simpa using hsame⟩
      · rintro ⟨v, hfound, hv, -⟩
        cases hfound
        cases hstored.symm.trans hv
        rfl
  · rename_i hnone
    exact told_of_write hnone hplan

/-- A value that is set if it can be computed. -/
theorem told_of_computed {computed : Option Value} {e : UpdateError}
    (hstored : ∀ v, place = .found v → m.action.stored? options v = computed)
    (h : (match computed with
      | some value => Planned.setValue m.path place value
      | none => .error e) = .ok plan) (hchanged : plan.changed = true) :
    m.Told options place plan := by
  split at h
  · exact told_of_setValue hstored h hchanged
  · cases h

theorem told_of_inc {amount : Value} (ha : m.action = .inc amount)
    (h : Planned.inc m.path place amount = .ok plan) (hchanged : plan.changed = true) :
    m.Told options place plan := by
  have hplan := Planned.forWrite_ok h
  split at hplan
  · rename_i hnone
    exact told_of_setValue (fun v hv => absurd hv (Place.ne_found hnone v)) hplan hchanged
  · rename_i current hfound
    obtain rfl := Place.value?_eq_some_iff.mp hfound
    refine told_of_computed ?_ hplan hchanged
    rintro v ⟨⟩
    rw [ha]
    rfl

theorem told_of_mul {factor : Value} (ha : m.action = .mul factor)
    (h : Planned.mul m.path place factor = .ok plan) (hchanged : plan.changed = true) :
    m.Told options place plan := by
  have hplan := Planned.forWrite_ok h
  split at hplan
  · rename_i hnone
    exact told_of_computed (fun v hv => absurd hv (Place.ne_found hnone v)) hplan hchanged
  · rename_i current hfound
    obtain rfl := Place.value?_eq_some_iff.mp hfound
    refine told_of_computed ?_ hplan hchanged
    rintro v ⟨⟩
    rw [ha]
    rfl

theorem told_of_bit {steps : List (BitOp × Value)} (ha : m.action = .bit steps)
    (h : Planned.bit m.path place steps = .ok plan) (hchanged : plan.changed = true) :
    m.Told options place plan := by
  have hplan := Planned.forWrite_ok h
  split at hplan
  case h_1 hnone =>
    exact told_of_computed (fun v hv => absurd hv (Place.ne_found hnone v)) hplan hchanged
  case h_2 hfound | h_3 hfound =>
    obtain rfl := Place.value?_eq_some_iff.mp hfound
    refine told_of_computed ?_ hplan hchanged
    rintro v ⟨⟩
    rw [ha]
    rfl
  case h_4 => cases hplan

/-- A bound that is written is not equal to what it replaces. -/
theorem told_of_bound {op : Operator} {wanted : Ordering} {operand : Value}
    (hwanted : wanted ≠ .eq) (hstored : ∀ v, m.action.stored? options v = none)
    (h : Planned.bound op wanted m.path place operand = .ok plan)
    (hchanged : plan.changed = true) : m.Told options place plan := by
  have hplan := Planned.forWrite_ok h
  split at hplan
  · rename_i hfound
    exact told_of_write hfound hplan
  · cases hplan
  · cases hplan
  · rename_i current _ _ hfound
    obtain rfl := Place.value?_eq_some_iff.mp hfound
    split at hplan
    · rename_i hcmp
      cases hplan
      refine told_put_new rfl ?_ fun v _ => ?_
      · rintro ⟨⟩
        rw [Value.cmp_self, beq_iff_eq] at hcmp
        exact hwanted hcmp.symm
      · rw [hstored]
        exact nofun
    · cases hplan
      cases hchanged

theorem told_of_rename {target : Path} (ha : m.action = .rename target)
    (h : Planned.rename m.path place target = .ok plan) (hchanged : plan.changed = true) :
    m.Told options place plan := by
  have hplan := Planned.forRead_ok h
  split at hplan
  · cases hplan
    cases hchanged
  · rename_i hfound
    cases hplan
    exact .renamed ha (Place.value?_eq_some_iff.mp hfound)

/-! ### Arrays -/

/-- The items are edited to the same items just where they are stored again. -/
def Tells (options : Options) (m : Mutation) (edit : ItemsEdit) : Prop :=
  ∀ items result, edit.result? items = some result → edit.changed items result = true →
    (result = items ↔ m.Restores options (.found (.array items)))

theorem told_of_edited {edit : ItemsEdit} (hedit : m.Tells options edit) {items : List Value}
    (h : Planned.edited m.path items edit = .ok plan) (hchanged : plan.changed = true) :
    m.Told options (.found (.array items)) plan := by
  unfold Planned.edited at h
  split at h
  · rename_i result hresult
    cases h
    rw [show edit.changed items result = true from hchanged]
    refine .put rfl ?_
    rw [← hedit items result hresult hchanged, Place.found.injEq, Value.array.injEq]
    exact eq_comm
  · cases h

theorem told_of_created {edit : ItemsEdit} (hnone : place.value? = none)
    (h : Planned.created m.path place edit = .ok plan) : m.Told options place plan := by
  unfold Planned.created at h
  split at h
  · cases h
  · rename_i hfree
    split at h
    · cases h
      exact told_put_missing hnone hfree
    · cases h

theorem told_of_grow {op : Operator} {edit : ItemsEdit} (hedit : m.Tells options edit)
    (h : Planned.grow op m.path place edit = .ok plan) (hchanged : plan.changed = true) :
    m.Told options place plan := by
  have hplan := Planned.forWrite_ok h
  split at hplan
  · rename_i hfound
    exact told_of_created hfound hplan
  · rename_i items hfound
    obtain rfl := Place.value?_eq_some_iff.mp hfound
    exact told_of_edited hedit hplan hchanged
  · cases hplan

theorem told_of_shrink {op : Operator} {edit : ItemsEdit} (hedit : m.Tells options edit)
    (h : Planned.shrink op m.path place edit = .ok plan) (hchanged : plan.changed = true) :
    m.Told options place plan := by
  have hplan := Planned.forRead_ok h
  split at hplan
  · cases hplan
    cases hchanged
  · rename_i items hfound
    obtain rfl := Place.value?_eq_some_iff.mp hfound
    exact told_of_edited hedit hplan hchanged
  · cases hplan

/-- An edit that counts the items tells of another number of them. -/
theorem tells_counted {f : List Value → List Value}
    (hstored : ∀ v, m.action.stored? options v = none) : m.Tells options (.counted f) := by
  rintro items result - h
  refine iff_of_false ?_ ?_
  · rintro rfl
    simp [ItemsEdit.counted] at h
  · rintro ⟨v, -, hv, -⟩
    cases (hstored v).symm.trans hv

theorem tells_push {p : Push} (ha : m.action = .push p) : m.Tells options (.push p) := by
  intro items result hresult h
  simp only [ItemsEdit.push] at h hresult
  -- The items are compared after sorting and slicing only, otherwise the new ones are counted.
  split at h
  · rename_i hp
    have hstored : m.action.stored? options (.array items) = some (.array result) := by
      rw [ha]
      exact (if_pos hp).trans (by rw [hresult, Option.map_some])
    rw [Bool.not_eq_true'] at h
    constructor
    · rintro rfl
      exact ⟨_, rfl, hstored, h⟩
    · rintro ⟨v, hfound, hv, -⟩
      cases hfound
      exact Value.array.inj (Option.some.inj (hstored.symm.trans hv))
  · rename_i hp
    have hstored : m.action.stored? options (.array items) = none := by
      rw [ha]
      exact if_neg hp
    simp only [Bool.or_eq_true, not_or, Option.not_isSome_iff_eq_none] at hp
    refine iff_of_false ?_ ?_
    · rintro rfl
      have hlength := p.length_result?_of_plain hp.1 hp.2 hresult
      have hempty : p.each = [] := List.eq_nil_of_length_eq_zero (by omega)
      rw [hempty] at h
      cases h
    · rintro ⟨v, hfound, hv, -⟩
      cases hfound
      cases hstored.symm.trans hv

theorem told_of_plan (hunset : m.action ≠ .unset) (h : m.plan options place = .ok plan)
    (hchanged : plan.changed = true) : m.Told options place plan := by
  unfold Mutation.plan at h
  cases ha : m.action <;> rw [ha] at h
  case set | currentDate =>
    refine told_of_setValue ?_ h hchanged
    intro v _
    rw [ha]
    rfl
  case setOnInsert value =>
    simp only at h
    split at h
    · rename_i hinsert
      refine told_of_setValue ?_ h hchanged
      intro v _
      rw [ha]
      exact if_pos hinsert
    · cases h
      cases hchanged
  case unset => exact absurd ha hunset
  case inc amount => exact told_of_inc ha h hchanged
  case mul factor => exact told_of_mul ha h hchanged
  case min | max =>
    refine told_of_bound (by decide) ?_ h hchanged
    intro v
    rw [ha]
    rfl
  case rename target => exact told_of_rename ha h hchanged
  case bit steps => exact told_of_bit ha h hchanged
  case addToSet =>
    refine told_of_grow (tells_counted ?_) h hchanged
    intro v
    rw [ha]
    rfl
  case push p => exact told_of_grow (tells_push ha) h hchanged
  case pop | pull | pullAll =>
    refine told_of_shrink (tells_counted ?_) h hchanged
    intro v
    rw [ha]
    rfl

/-! ## What a mutation tells -/

variable {doc after : Fields}

theorem restores_iff_overstates (hunset : m.action ≠ .unset)
    (hdoc : (Value.document doc).DistinctNames) :
    m.Restores options (doc.place m.path) ↔ m.Overstates options doc := by
  constructor
  · rintro ⟨v, hfound, hstored, hsame⟩
    have hnan : v.HasNaN := by
      by_contra hnan
      rw [(Value.same_self_iff (Value.kept_distinctNames.place hdoc hfound)).mpr hnan] at hsame
      cases hsame
    refine .rewritten ?_ hstored hnan
    rwa [Fields.read_eq, Place.read_eq_found_iff]
  · rintro (⟨ha, -⟩ | ⟨hread, hstored, hnan⟩)
    · exact absurd ha hunset
    · rw [Fields.read_eq, Place.read_eq_found_iff] at hread
      refine ⟨_, hread, hstored, ?_⟩
      rw [← Bool.not_eq_true, Value.same_self_iff (Value.kept_distinctNames.place hdoc hread)]
      exact not_not_intro hnan

theorem changeAll_ne_of_renamed {target : Path} {v : Value} (hm : m.RenamesTop)
    (ha : m.action = .rename target) (hfound : doc.place m.path = .found v) :
    doc.changeAll [⟨m.path, none⟩, ⟨target, none⟩, ⟨target, some v⟩] ≠ doc := by
  intro hsame
  have hgone := place_changeAll_of_renamed hm ha doc v
  rw [hsame, hfound] at hgone
  cases hgone

/-- Removing tells of a change wherever something is found. -/
theorem eq_iff_overstates_of_unset (ha : m.action = .unset)
    (hplan : m.plan options (doc.place m.path) = .ok plan) (hchanged : plan.changed = true) :
    doc.changeAll plan.changes = doc ↔ m.Overstates options doc := by
  unfold Mutation.plan Planned.remove at hplan
  rw [ha] at hplan
  simp only at hplan
  split at hplan
  · rename_i v hvalue
    cases hplan
    have hfound := Place.value?_eq_some_iff.mp hvalue
    have hread : doc.read m.path = .ok (some v) := by
      rwa [Fields.read_eq, Place.read_eq_found_iff]
    refine (Fields.change_none_eq_self_iff hfound).trans ⟨?_, ?_⟩
    · rintro ⟨rfl, r, s, items, hsplit, hreached⟩
      exact .emptied ha hread hsplit hreached
    · rintro (⟨-, hnull, hsplit, hreached⟩ | ⟨-, hstored, -⟩)
      · cases hread.symm.trans hnull
        exact ⟨rfl, _, _, _, hsplit, hreached⟩
      · rw [ha] at hstored
        cases hstored
  · cases hplan
    cases hchanged

/-- A mutation that tells of a change has made one, unless it overstates. -/
theorem eq_iff_overstates (hm : m.RenamesTop) (hdoc : (Value.document doc).DistinctNames)
    (h : m.apply options doc = .ok true after) : after = doc ↔ m.Overstates options doc := by
  rw [apply_eq hm] at h
  obtain ⟨plan, hplan, hchanged, rfl⟩ := Planned.run_eq_ok.mp h
  -- Removing asks for no value to compare with, so it is not among the plans that put one.
  by_cases hunset : m.action = .unset
  · exact eq_iff_overstates_of_unset hunset hplan hchanged
  rw [← restores_iff_overstates hunset hdoc]
  cases told_of_plan hunset hplan hchanged with
  | put hfree hagain =>
    rw [← hagain]
    exact Fields.change_eq_self_iff hfree
  | renamed ha hfound =>
    refine iff_of_false (changeAll_ne_of_renamed hm ha hfound) ?_
    rintro ⟨v, -, hstored, -⟩
    rw [ha] at hstored
    cases hstored

/-- Dates and integers have no NaN in them, and bounds and sets are not compared this way. -/
theorem operator_of_overstates (h : m.Overstates options doc) :
    m.action.operator ∈ [.unset, .set, .setOnInsert, .inc, .mul, .push] := by
  cases h with
  | emptied ha => rw [ha]; decide
  | @rewritten v _ hstored hnan =>
    cases ha : m.action <;> rw [ha] at hstored
    case currentDate kind =>
      obtain rfl := Option.some.inj hstored
      cases kind <;> exact absurd hnan (Value.not_hasNaN_of_plain rfl nofun)
    case bit steps =>
      cases v
      case int32 | int64 => exact absurd hnan (Value.not_hasNaN_of_plain rfl nofun)
      all_goals cases hstored
    case set | setOnInsert | inc | mul | push => simp [Action.operator]
    all_goals cases hstored

end Mutation

namespace UpdateSpec

/-- A mutation that tells of a change leaves the document as it was just where it overstates. Only
six operators can do so. -/
theorem told_change_is_none_iff {spec : Fields} {us : UpdateSpec} (h : parse spec = .ok us)
    {m : Mutation} (hm : m ∈ us.mutations) (options : Options) {doc after : Fields}
    (hdoc : (Value.document doc).DistinctNames) (happly : m.apply options doc = .ok true after) :
    (after = doc ↔ m.Overstates options doc) ∧ (m.Overstates options doc →
      m.action.operator ∈ [.unset, .set, .setOnInsert, .inc, .mul, .push]) :=
  ⟨Mutation.eq_iff_overstates (renamesTop_of_parse h hm) hdoc happly,
    Mutation.operator_of_overstates⟩

/-- An array with a NaN in it is sliced to all its items. -/
theorem told_slice_of_nan :
    let doc : Fields := [("q", .array [.double (.nan false)])]
    ∃ us m, parse [("$push", .document [("q", .document
        [("$each", .array []), ("$slice", .int32 1)])])] = .ok us ∧ m ∈ us.mutations ∧
      (Value.document doc).DistinctNames ∧ m.apply ⟨false, 0⟩ doc = .ok true doc ∧
      m.Overstates ⟨false, 0⟩ doc := by
  intro doc
  have h : parse [("$push", .document [("q", .document
      [("$each", .array []), ("$slice", .int32 1)])])] = .ok _ := rfl
  have hdoc : (Value.document doc).DistinctNames := by
    refine .document (List.nodup_singleton _) ?_
    intro field hfield
    obtain rfl := List.mem_singleton.mp hfield
    refine .array fun item hitem => ?_
    obtain rfl := List.mem_singleton.mp hitem
    exact .plain rfl
  refine ⟨_, _, h, List.mem_singleton_self _, hdoc, rfl, ?_⟩
  have hiff := (told_change_is_none_iff h (List.mem_singleton_self _) ⟨false, 0⟩ hdoc rfl).1
  exact hiff.mp rfl

/-- A null in an array is removed, and a null is left. -/
theorem unset_tells_of_null : ∃ us m,
    parse [("$unset", .document [("a.0", .string "")])] = .ok us ∧ m ∈ us.mutations ∧
    m.apply ⟨false, 0⟩ [("a", .array [.null])] = .ok true [("a", .array [.null])] :=
  ⟨_, _, rfl, List.mem_singleton_self _, rfl⟩

end UpdateSpec

end DocUpdate
