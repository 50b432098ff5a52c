import DocUpdate.Pipeline
import DocUpdate.Proofs.Update.Effect
import DocUpdate.Proofs.Update.Items

/-!
# What is told of changes

A run that tells of no change has made none, with one exception. Sorting and slicing compare
the items as values, so they do not tell of another order of fields or another sign of zero.
-/

namespace DocUpdate

/-! ## Items -/

theorem Push.result?_of_plain {p : Push} (heach : p.each = []) (hsort : p.sort = none)
    (hslice : p.slice = none) (items : List Value) : p.result? items = some items := by
  simp [result?, sorted?, sliced, inserted, heach, hsort, hslice]

namespace ItemsEdit

/-- An edit that only takes items out, or only adds some, tells of them by their number. -/
theorem counted_of_unchanged {f : List Value → List Value} {items : List Value}
    (hf : (f items).Sublist items ∨ items.Sublist (f items))
    (h : (counted f).changed items (f items) = false) : f items = items := by
  have hlen : items.length = (f items).length := by simpa [counted] using h
  rcases hf with hf | hf
  · exact hf.eq_of_length hlen.symm
  · exact (hf.eq_of_length hlen).symm

end ItemsEdit

/-! ## Mutations -/

namespace Mutation

/-- The items of an array are sorted or sliced to others that compare as equal. -/
def Hides (m : Mutation) (doc : Fields) : Prop :=
  ∃ p items result, m.action = .push p ∧ (p.sort.isSome ∨ p.slice.isSome) ∧
    doc.read m.path = .ok (some (.array items)) ∧ p.result? items = some result ∧
    Value.sameItems items result ∧ result ≠ items

/-- An edit of items that tells of no change either makes none or hides one. -/
theorem result_of_unchanged {m : Mutation} {edit : ItemsEdit}
    (hedit : m.action.itemsEdit? = some edit) {doc : Fields} {items result : List Value}
    (hplace : doc.place m.path = .found (.array items)) (hresult : edit.result? items = some result)
    (h : edit.changed items result = false) (hhides : ¬ m.Hides doc) : result = items := by
  cases ha : m.action <;> rw [ha] at hedit <;> cases hedit
  case push p =>
    simp only [ItemsEdit.push] at h hresult
    split at h
    · rename_i hp
      by_contra hne
      refine hhides ⟨p, items, result, ha, by simpa using hp, ?_, hresult, by simpa using h, hne⟩
      rw [Fields.read_eq, hplace]
      rfl
    · rename_i hp
      simp only [Bool.or_eq_true, not_or, Option.not_isSome_iff_eq_none] at hp
      rw [Push.result?_of_plain (by simpa using h) hp.1 hp.2 items] at hresult
      exact (Option.some.inj hresult).symm
  all_goals cases hresult
  case addToSet values =>
    exact ItemsEdit.counted_of_unchanged (.inr (Items.sublist_union items values)) h
  case pop side => exact ItemsEdit.counted_of_unchanged (.inl (Items.pop_sublist side items)) h
  case pull condition => exact ItemsEdit.counted_of_unchanged (.inl List.filter_sublist) h
  case pullAll values => exact ItemsEdit.counted_of_unchanged (.inl List.filter_sublist) h

/-- What is hidden is a change of the document. -/
theorem ne_of_hides {options : Options} {m : Mutation} (hm : m.RenamesTop) {doc after : Fields}
    {changed : Bool} (h : m.apply options doc = .ok changed after) (hhides : m.Hides doc) :
    after ≠ doc := by
  obtain ⟨p, items, result, ha, -, hread, hresult, -, hne⟩ := hhides
  rw [Fields.read_eq, Place.read_eq_found_iff] at hread
  rw [apply_eq hm, hread] at h
  have hplan : m.plan options (.found (.array items)) = .ok
      ⟨(ItemsEdit.push p).changed items result, [⟨m.path, some (.array result)⟩]⟩ := by
    have hresult : (ItemsEdit.push p).result? items = some result := hresult
    simp only [plan, ha, Planned.grow, Planned.forWrite, Place.value?, Planned.edited, hresult]
  rw [hplan] at h
  obtain ⟨-, rfl⟩ := Edit.Result.ok.inj h
  intro hsame
  have hplace : (doc.change ⟨m.path, some (.array result)⟩).place m.path =
      .found (.array result) :=
    Fields.place_change_self (by rw [hread]; rfl) _
  have hsame : doc.change ⟨m.path, some (.array result)⟩ = doc := hsame
  rw [hsame, hread] at hplace
  exact hne (Value.array.inj (Place.found.inj hplace)).symm

/-- A mutation that tells of no change has made none, unless it hides one. -/
theorem eq_iff_not_hides {options : Options} {m : Mutation} (hm : m.RenamesTop)
    {doc after : Fields} (h : m.apply options doc = .ok false after) :
    after = doc ↔ ¬ m.Hides doc := by
  constructor
  · intro heq hhides
    exact ne_of_hides hm h hhides heq
  · intro hhides
    rw [apply_eq hm] at h
    obtain ⟨plan, hplan, hchanged, rfl⟩ := Planned.run_eq_ok.mp h
    generalize hplace : doc.place m.path = place at hplan
    cases outcome_of_plan hplan with
    | kept => rfl
    | changed value => cases hchanged
    | edited hedit hfound hresult =>
      subst hfound
      have hitems := result_of_unchanged hedit hplace hresult hchanged hhides
      simp only [Fields.changeAll_cons, hitems]
      exact Fields.change_of_found hplace
    | renamed value ha => cases hchanged

end Mutation

/-! ## Runs -/

section

variable {options : Options} {ms ns : List Mutation} {doc mid after : Fields}

theorem applyAll_append_of_ok {first later : Bool} (h : applyAll options ms doc = .ok first mid)
    (h' : applyAll options ns mid = .ok later after) :
    applyAll options (ms ++ ns) doc = .ok (first || later) after := by
  induction ms generalizing doc first with
  | nil =>
    cases h
    exact h'
  | cons m rest ih =>
    obtain ⟨changed, next, changedLater, hm, hrest, rfl⟩ := applyAll_cons_ok h
    rw [Bool.or_assoc]
    exact applyAll_cons_of_ok hm (ih hrest)

theorem applyAll_cons_of_kept {m : Mutation} (h : m.apply options doc = .ok false doc) :
    applyAll options (m :: ms) doc = applyAll options ms doc := by
  rw [applyAll, Edit.bind_of_ok h]
  cases hms : applyAll options ms doc with
  | ok later after => rw [Edit.bind_of_ok hms, Edit.pure_run, Bool.false_or]
  | error e left => rw [Edit.bind_of_error hms]
  | unordered => rw [Edit.bind_of_unordered hms]

/-- A run that tells of no change stays at the document exactly if no mutation hides a change
of it. -/
theorem prefixes_keep_iff (hms : ∀ m ∈ ms, m.RenamesTop)
    (h : applyAll options ms doc = .ok false after) :
    (∀ done, done <+: ms → applyAll options done doc = .ok false doc) ↔
      ∀ m ∈ ms, ¬ m.Hides doc := by
  induction ms with
  | nil =>
    constructor
    · intro _ m hm
      cases hm
    · intro _ done hdone
      obtain rfl := List.prefix_nil.mp hdone
      rfl
  | cons m rest ih =>
    obtain ⟨first, mid, later, hm, hrest, hor⟩ := applyAll_cons_ok h
    obtain ⟨rfl, rfl⟩ := Bool.or_eq_false_iff.mp hor.symm
    have hiff := Mutation.eq_iff_not_hides (hms m (by simp)) hm
    -- In both directions the first mutation keeps the document, and the rest starts from it.
    constructor
    · intro hkeep
      have hfirst := hkeep [m] (by simp)
      obtain ⟨changed, next, later, hm', hnil, -⟩ := applyAll_cons_ok hfirst
      cases hnil
      cases hm.symm.trans hm'
      have hrest_iff := ih (fun n hn => hms n (by simp [hn])) hrest
      intro n hn
      rcases List.mem_cons.mp hn with rfl | hn
      · exact hiff.mp rfl
      · refine hrest_iff.mp (fun done hdone => ?_) n hn
        rw [← applyAll_cons_of_kept hm]
        exact hkeep (m :: done) ((List.prefix_cons_inj m).mpr hdone)
    · intro hhides done hdone
      obtain rfl := hiff.mpr (hhides m (by simp))
      rcases List.prefix_cons_iff.mp hdone with rfl | ⟨tail, rfl, htail⟩
      · rfl
      · rw [applyAll_cons_of_kept hm]
        have hrest_iff := ih (fun n hn => hms n (by simp [hn])) hrest
        exact hrest_iff.mpr (fun n hn => hhides n (by simp [hn])) tail htail

end

/-! ## Pipelines -/

namespace Pipeline

/-- The mutations of all update documents, in order. -/
def mutations (p : Pipeline) : List Mutation := p.specs.flatMap (·.mutations)

theorem applyTo_ok {options : Options} {us : UpdateSpec} {doc : Fields} {updated : Updated}
    (h : us.applyTo options doc = .ok updated) :
    applyAll options us.mutations doc = .ok updated.modified updated.document := by
  unfold UpdateSpec.applyTo at h
  split at h
  · rename_i modified after hrun
    obtain ⟨-, -, h⟩ := bind_ok h
    cases h
    exact hrun
  all_goals cases h

/-- A pipeline that succeeds runs all its mutations. -/
theorem run_ok {options : Options} {specs : List UpdateSpec} {doc : Fields} {updated : Updated}
    (h : run options doc specs = .ok updated) :
    applyAll options (specs.flatMap (·.mutations)) doc =
      .ok updated.modified updated.document := by
  induction specs generalizing doc updated with
  | nil =>
    cases h
    rfl
  | cons us rest ih =>
    obtain ⟨first, hfirst, h⟩ := bind_ok h
    obtain ⟨last, hlast, h⟩ := bind_ok h
    cases h
    exact applyAll_append_of_ok (applyTo_ok hfirst) (ih hlast)

theorem renamesTop_of_parse {updates : List Fields} {p : Pipeline}
    (h : parse updates = .ok p) {m : Mutation} (hm : m ∈ p.mutations) : m.RenamesTop := by
  unfold parse at h
  split at h
  · cases h
  · obtain ⟨specs, hspecs, rfl⟩ := map_ok h
    obtain ⟨us, hus, hm⟩ := List.mem_flatMap.mp hm
    obtain ⟨spec, -, hspec⟩ := mem_of_mapM_ok hspecs hus
    exact UpdateSpec.renamesTop_of_parse hspec hm

/-- A pipeline that tells of no change keeps the document throughout exactly if none of its
mutations hides a change of it. Then the document it returns is the one it was given. -/
theorem unreported_iff_not_hides {updates : List Fields} {p : Pipeline}
    (h : parse updates = .ok p) {options : Options} {doc after : Fields}
    (hrun : p.apply options doc = .ok ⟨after, false⟩) :
    ((∀ done, done <+: p.mutations → applyAll options done doc = .ok false doc) ↔
      ∀ m ∈ p.mutations, ¬ m.Hides doc) ∧
    ((∀ m ∈ p.mutations, ¬ m.Hides doc) → after = doc) := by
  have hall : applyAll options p.mutations doc = .ok false after := run_ok hrun
  have hiff := prefixes_keep_iff (fun m hm => renamesTop_of_parse h hm) hall
  refine ⟨hiff, fun hhides => ?_⟩
  have hkeep := hiff.mpr hhides p.mutations (List.prefix_refl _)
  cases hall.symm.trans hkeep
  rfl

/-- Setting what is there already. -/
theorem keep_of_set_same : ∃ p,
    parse [[("$set", .document [("a", .int32 1)])]] = .ok p ∧
    ∀ after, p.apply ⟨false, 0⟩ [("a", .int32 1)] = .ok ⟨after, false⟩ →
      after = [("a", .int32 1)] := by
  have h : parse [[("$set", .document [("a", .int32 1)])]] = .ok _ := rfl
  refine ⟨_, h, fun after hrun => ?_⟩
  refine (unreported_iff_not_hides h hrun).2 ?_
  rintro m hm ⟨p, items, result, ha, -⟩
  obtain rfl := List.mem_singleton.mp hm
  cases ha

/-- Slicing to the new last item goes untold if that has the fields of the old one in another
order. -/
theorem slice_hides_field_order : ∃ p after,
    parse [[("$push", .document [("q", .document [
      ("$each", .array [.document [("y", .int32 2), ("x", .int32 1)]]),
      ("$slice", .int32 (-1))])])]] = .ok p ∧
    p.apply ⟨false, 0⟩ [("q", .array [.document [("x", .int32 1), ("y", .int32 2)]])] =
      .ok ⟨after, false⟩ ∧
    after ≠ [("q", .array [.document [("x", .int32 1), ("y", .int32 2)]])] :=
  ⟨_, [("q", .array [.document [("y", .int32 2), ("x", .int32 1)]])], rfl, rfl, by simp⟩

end Pipeline

end DocUpdate
