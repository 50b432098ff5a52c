import DocUpdate.Proofs.Path.Clear
import DocUpdate.Proofs.Update.Effect
import DocUpdate.Proofs.Update.Items
import DocUpdate.Proofs.Update.Union
import DocUpdate.Proofs.Value.Order

/-!
# Updates that can be repeated

Once such a mutation has been carried out, doing it again changes nothing. The other mutations
of the update document claim other places, so that is still so when all of them are done.
-/

namespace DocUpdate

/-- Doing it a second time is meant to change nothing. A bound has to be a value without parts,
as nothing else is compared. -/
def Action.Repeatable : Action → Prop
  | set _ | unset | setOnInsert _ | currentDate _ | rename _ | addToSet _ => True
  | min value | max value => value.hasParts = false
  | _ => False

/-! ## Sets -/

namespace Items

theorem union_of_covered {items values : List Value}
    (h : ∀ v ∈ values, ∃ item ∈ items, item.equal v = true) : union items values = items := by
  induction values with
  | nil => rfl
  | cons v rest ih =>
    obtain ⟨item, hitem, hequal⟩ := h v (by simp)
    have hany : items.any (·.equal v) = true := List.any_eq_true.mpr ⟨item, hitem, hequal⟩
    rw [union, if_pos hany]
    exact ih fun w hw => h w (by simp [hw])

/-- Values that were added are not added again. -/
theorem union_union (items values : List Value) :
    union (union items values) values = union items values := by
  obtain ⟨added, hunion, hunites⟩ := exists_unites items values
  rw [hunion]
  exact union_of_covered hunites.picks.covers

end Items

/-! ## Plans that change nothing -/

/-- The plan puts nothing but what stands at the place already. -/
def Plan.Idle (path : Path) (place : Place) (plan : Plan) : Prop :=
  ∀ c ∈ plan.changes, ∃ v, c = ⟨path, some v⟩ ∧ place = .found v

theorem Plan.idle_keep (path : Path) (place : Place) : Plan.Idle path place ⟨false, []⟩ := by
  intro c hc
  cases hc

theorem Plan.idle_put {changed : Bool} {path : Path} {v : Value} :
    Plan.Idle path (.found v) ⟨changed, [⟨path, some v⟩]⟩ := by
  intro c hc
  obtain rfl := List.mem_singleton.mp hc
  exact ⟨v, rfl, rfl⟩

theorem Plan.Idle.changeAll_eq {path : Path} {doc : Fields} {plan : Plan}
    (h : plan.Idle path (doc.place path)) : doc.changeAll plan.changes = doc := by
  obtain ⟨changed, changes⟩ := plan
  induction changes with
  | nil => rfl
  | cons c rest ih =>
    obtain ⟨v, rfl, hv⟩ := h c (by simp)
    rw [Fields.changeAll_cons, Fields.change_of_found hv]
    exact ih fun d hd => h d (by simp [hd])

/-! ## Fields of the document itself -/

namespace Fields

variable {p : Path}

theorem missing_of_top (h : p.tail = []) {doc : Fields} (hp : (doc.place p).value? = none) :
    doc.place p = .missing := by
  rw [place_eq, h] at hp ⊢
  cases hs : doc.get? p.head.name with
  | none => rfl
  | some v => simp [hs, Place.value?] at hp

theorem place_change_none_of_top (h : p.tail = []) (doc : Fields) :
    (doc.change ⟨p, none⟩).place p = .missing := by
  have hget : (doc.change ⟨p, none⟩).get? p.head.name = none := by
    rw [change, get?_alter_self, h]
    rfl
  rw [place_eq, hget]

end Fields

/-! ## Mutations that are done -/

namespace Mutation

variable {options : Options} {m : Mutation} {doc after : Fields} {changed : Bool}

/-- The mutation has a plan for the place, and it changes nothing. -/
def IdleAt (options : Options) (m : Mutation) (place : Place) : Prop :=
  ∃ plan, m.plan options place = .ok plan ∧ plan.Idle m.path place

/-- Why a mutation would change nothing: it does not look at the document, or what it would
remove is gone, or what it would put is there. -/
inductive Done (options : Options) (m : Mutation) (doc : Fields) : Prop where
  | skipped (plan : ∀ place, m.plan options place = Planned.keep)
  | cleared (action : m.action = .unset) (clear : doc.Clear m.path)
  | settled (inside : (doc.place m.path).Inside) (idle : m.IdleAt options (doc.place m.path))

theorem done_of_found {v : Value} (h : doc.place m.path = .found v)
    (hidle : m.IdleAt options (.found v)) : m.Done options doc := by
  refine .settled ?_ ?_
  · rw [h]
    exact Place.inside_found v
  · rwa [h]

/-- What changes elsewhere does not undo a mutation. -/
theorem Done.changeAll {cs : List Change} (h : m.Done options doc)
    (hapart : ∀ c ∈ cs, c.path.Apart m.path) : m.Done options (doc.changeAll cs) := by
  cases h with
  | skipped hplan => exact .skipped hplan
  | cleared ha hclear => exact .cleared ha (hclear.changeAll hapart)
  | settled hin hidle =>
    have hplace := Fields.place_changeAll_of_apart hapart hin
    exact .settled (by rwa [hplace]) (by rwa [hplace])

theorem Done.apply (h : m.Done options doc) (hm : m.RenamesTop) :
    ∃ changed, m.apply options doc = .ok changed doc := by
  rw [apply_eq hm]
  cases h with
  | skipped hplan =>
    rw [hplan]
    exact ⟨false, rfl⟩
  | cleared ha hclear =>
    unfold plan Planned.remove
    rw [ha]
    cases hv : (doc.place m.path).value? with
    | none => exact ⟨false, by simp only; rfl⟩
    | some v =>
      have hsame := hclear.change_none (Place.value?_eq_some_iff.mp hv)
      exact ⟨true, congrArg (Edit.Result.ok true) hsame⟩
  | settled hin hidle =>
    obtain ⟨plan, hplan, hidle⟩ := hidle
    rw [hplan]
    exact ⟨plan.changed, congrArg (Edit.Result.ok plan.changed) hidle.changeAll_eq⟩

/-! ## One mutation -/

/-- The mutation is done once the changes of a plan are made. -/
def Finishes (options : Options) (m : Mutation) (doc : Fields) (plan : Plan) : Prop :=
  m.Done options (doc.changeAll plan.changes)

theorem finishes_put {value : Value} {told : Bool} (hfault : (doc.place m.path).fault? = none)
    (hidle : m.IdleAt options (.found value)) :
    m.Finishes options doc ⟨told, [⟨m.path, some value⟩]⟩ :=
  done_of_found (Fields.place_change_self hfault value) hidle

theorem gives_finishes_setValue {value : Value}
    (hplan : ∀ place, m.plan options place = Planned.setValue m.path place value) :
    (m.plan options (doc.place m.path)).Gives (m.Finishes options doc) := by
  have hkept : ∀ current : Value, current.same value → m.IdleAt options (.found current) := by
    intro current hsame
    refine ⟨⟨false, []⟩, ?_, Plan.idle_keep _ _⟩
    simp only [hplan, Planned.setValue, Planned.forWrite, Place.value?, hsame, if_true]
    rfl
  rw [hplan]
  refine Planned.gives_setValue (fun current hplace hsame => ?_) fun hfault => ?_
  · exact done_of_found hplace (hkept current hsame)
  · refine finishes_put hfault ?_
    cases hsame : value.same value with
    | true => exact hkept value hsame
    | false =>
      -- A number that is not the same as itself is put in its own place.
      refine ⟨⟨true, [⟨m.path, some value⟩]⟩, ?_, Plan.idle_put⟩
      simp only [hplan, Planned.setValue, Planned.forWrite, Place.value?, hsame]
      rfl

theorem gives_finishes_bound {op : Operator} {wanted : Ordering} {value : Value}
    (hplan : ∀ place, m.plan options place = Planned.bound op wanted m.path place value)
    (hwanted : .eq ≠ wanted) (hvalue : value.hasParts = false) :
    (m.plan options (doc.place m.path)).Gives (m.Finishes options doc) := by
  have hkept : ∀ current : Value, current.hasParts = false → value.cmp current ≠ wanted →
      m.IdleAt options (.found current) := by
    intro current hparts hcmp
    refine ⟨⟨false, []⟩, ?_, Plan.idle_keep _ _⟩
    have hne : (value.cmp current == wanted) = false := by simpa using hcmp
    rw [hplan]
    cases current
    case array | document => cases hparts
    all_goals
      simp only [Planned.bound, Planned.forWrite, Place.value?, hne]
      rfl
  rw [hplan]
  refine Planned.gives_bound (fun current hplace hparts hcmp => ?_) fun hfault => ?_
  · exact done_of_found hplace (hkept current hparts hcmp)
  · refine finishes_put hfault (hkept value hvalue ?_)
    rwa [Value.cmp_self]

theorem gives_finishes_remove (ha : m.action = .unset) :
    (m.plan options (doc.place m.path)).Gives (m.Finishes options doc) := by
  unfold plan
  rw [ha]
  refine Planned.gives_remove (fun hmissing => ?_) ?_
  · exact .cleared ha (Fields.clear_of_missing hmissing)
  · exact .cleared ha (Fields.clear_change_none doc m.path)

/-- What is renamed is gone from where it stood. -/
theorem place_changeAll_of_renamed {target : Path} (hm : m.RenamesTop)
    (ha : m.action = .rename target) (doc : Fields) (v : Value) :
    (doc.changeAll [⟨m.path, none⟩, ⟨target, none⟩, ⟨target, some v⟩]).place m.path = .missing := by
  obtain ⟨hsource, -, hapart⟩ := hm target ha
  have hremoved := Fields.place_change_none_of_top hsource doc
  rw [Fields.changeAll_cons, Fields.place_changeAll_of_apart _ (by simp [hremoved]), hremoved]
  intro c hc
  simp only [List.mem_cons, List.not_mem_nil, or_false] at hc
  rcases hc with rfl | rfl
  · exact hapart.symm
  · exact hapart.symm

theorem gives_finishes_rename {target : Path} (hm : m.RenamesTop) (ha : m.action = .rename target) :
    (m.plan options (doc.place m.path)).Gives (m.Finishes options doc) := by
  obtain ⟨hsource, -, -⟩ := hm target ha
  have gone : ∀ left : Fields, left.place m.path = .missing → m.Done options left := by
    intro left hleft
    refine .settled ?_ ⟨⟨false, []⟩, ?_, Plan.idle_keep _ _⟩
    · rw [hleft]
      exact Place.inside_missing
    · rw [hleft, plan, ha]
      rfl
  unfold plan
  rw [ha]
  refine Planned.gives_rename (fun hmissing => ?_) fun v _ => ?_
  · exact gone doc (Fields.missing_of_top hsource hmissing)
  · exact gone _ (place_changeAll_of_renamed hm ha doc v)

theorem gives_finishes_addToSet {values : List Value} (ha : m.action = .addToSet values) :
    (m.plan options (doc.place m.path)).Gives (m.Finishes options doc) := by
  have hidle : ∀ items : List Value,
      m.IdleAt options (.found (.array (Items.union items values))) := by
    intro items
    refine ⟨_, by rw [plan, ha]; rfl, ?_⟩
    simp only [Items.union_union]
    exact Plan.idle_put
  unfold plan
  rw [ha]
  refine Planned.gives_grow (fun result hfault hresult => ?_) fun items result hplace hresult => ?_
  all_goals cases hresult
  · exact finishes_put hfault (hidle [])
  · refine finishes_put ?_ (hidle items)
    rw [hplace]
    rfl

/-- A mutation that was carried out would change nothing any more. -/
theorem done_of_apply (hm : m.RenamesTop) (hrepeat : m.action.Repeatable)
    (h : m.apply options doc = .ok changed after) : m.Done options after := by
  have hgives : (m.plan options (doc.place m.path)).Gives (m.Finishes options doc) := by
    cases ha : m.action <;> rw [ha] at hrepeat
    case set value => exact gives_finishes_setValue fun place => by rw [plan, ha]
    case unset => exact gives_finishes_remove ha
    case setOnInsert value =>
      cases hinsert : options.isInsert with
      | true =>
        have hplan : ∀ place, m.plan options place = Planned.setValue m.path place value := by
          intro place
          rw [plan, ha]
          simp [hinsert]
        exact gives_finishes_setValue hplan
      | false =>
        have hplan : ∀ place, m.plan options place = Planned.keep := by
          intro place
          rw [plan, ha]
          simp [hinsert]
        rw [hplan]
        exact .skipped hplan
    case currentDate kind => exact gives_finishes_setValue fun place => by rw [plan, ha]
    case min value =>
      exact gives_finishes_bound (fun place => by rw [plan, ha]) (by decide) hrepeat
    case max value =>
      exact gives_finishes_bound (fun place => by rw [plan, ha]) (by decide) hrepeat
    case rename target => exact gives_finishes_rename hm ha
    case addToSet values => exact gives_finishes_addToSet ha
    all_goals exact hrepeat.elim
  rw [apply_eq hm] at h
  obtain ⟨plan, hplan, -, rfl⟩ := Planned.run_eq_ok.mp h
  exact hgives.of_ok hplan

/-- A mutation apart from it leaves it done. -/
theorem Done.apply_of_apart {n : Mutation} (h : m.Done options doc) (hn : n.RenamesTop)
    (hapart : n.ApartFrom m) (hrun : n.apply options doc = .ok changed after) :
    m.Done options after := by
  rw [apply_eq hn] at hrun
  obtain ⟨plan, hplan, -, rfl⟩ := Planned.run_eq_ok.mp hrun
  exact h.changeAll fun c hc => hapart _ (changes_claimed hplan hc) _ m.path_mem_claims

end Mutation

/-! ## Runs -/

section

variable {options : Options} {m : Mutation} {ms : List Mutation} {doc after : Fields}
  {changed : Bool}

theorem Mutation.Done.applyAll (h : m.Done options doc) (hms : ∀ n ∈ ms, n.RenamesTop)
    (hapart : ∀ n ∈ ms, n.ApartFrom m) (hrun : applyAll options ms doc = .ok changed after) :
    m.Done options after := by
  induction ms generalizing doc changed with
  | nil =>
    cases hrun
    exact h
  | cons n rest ih =>
    obtain ⟨first, mid, later, hn, hrest, -⟩ := applyAll_cons_ok hrun
    have hmid := h.apply_of_apart (hms n (by simp)) (hapart n (by simp)) hn
    exact ih hmid (fun k hk => hms k (by simp [hk])) (fun k hk => hapart k (by simp [hk])) hrest

/-- After a run every mutation is done, also those that others followed. -/
theorem done_of_applyAll (hms : ∀ m ∈ ms, m.RenamesTop ∧ m.action.Repeatable)
    (hapart : ms.Pairwise Mutation.ApartFrom)
    (hrun : applyAll options ms doc = .ok changed after) : ∀ m ∈ ms, m.Done options after := by
  induction ms generalizing doc changed with
  | nil => simp
  | cons m rest ih =>
    obtain ⟨first, mid, later, hm, hrest, -⟩ := applyAll_cons_ok hrun
    obtain ⟨hfirst, hlater⟩ := List.pairwise_cons.mp hapart
    obtain ⟨htop, hrepeat⟩ := hms m (by simp)
    have hdone := Mutation.done_of_apply htop hrepeat hm
    refine List.forall_mem_cons.mpr ⟨?_, ih (fun n hn => hms n (by simp [hn])) hlater hrest⟩
    exact hdone.applyAll (fun n hn => (hms n (by simp [hn])).1)
      (fun n hn => (hfirst n hn).symm) hrest

theorem applyAll_of_done (hms : ∀ m ∈ ms, m.RenamesTop ∧ m.Done options doc) :
    ∃ changed, applyAll options ms doc = .ok changed doc := by
  induction ms with
  | nil => exact ⟨false, rfl⟩
  | cons m rest ih =>
    obtain ⟨htop, hdone⟩ := hms m (by simp)
    obtain ⟨first, hm⟩ := hdone.apply htop
    obtain ⟨later, hrest⟩ := ih fun n hn => hms n (by simp [hn])
    exact ⟨first || later, applyAll_cons_of_ok hm hrest⟩

end

namespace UpdateSpec

/-- An update document of repeatable mutations that was applied is applied again without any
change. -/
theorem apply_again {spec : Fields} {us : UpdateSpec} (h : parse spec = .ok us)
    (hrepeat : ∀ m ∈ us.mutations, m.action.Repeatable) (options : Options) {doc after : Fields}
    {changed : Bool} (hrun : us.apply options doc = .ok changed after) :
    ∃ changed', us.apply options after = .ok changed' after := by
  have htop : ∀ m ∈ us.mutations, m.RenamesTop := fun m hm => renamesTop_of_parse h hm
  have hdone := done_of_applyAll (fun m hm => ⟨htop m hm, hrepeat m hm⟩)
    (pairwise_apart_of_parse h) hrun
  exact applyAll_of_done fun m hm => ⟨htop m hm, hdone m hm⟩

/-- The item to remove is missing at first, and a null once the array is filled up behind it. -/
theorem unset_before_set_past_end : ∃ us changed',
    parse [("$unset", .document [("a.2", .null)]), ("$set", .document [("a.4", .int32 5)])] =
      .ok us ∧
    us.apply ⟨false, 0⟩ [("a", .array [.int32 1])] =
      .ok true [("a", .array [.int32 1, .null, .null, .null, .int32 5])] ∧
    us.apply ⟨false, 0⟩ [("a", .array [.int32 1, .null, .null, .null, .int32 5])] =
      .ok changed' [("a", .array [.int32 1, .null, .null, .null, .int32 5])] := by
  obtain ⟨us, h, hrun, hrepeat⟩ : ∃ us,
      parse [("$unset", .document [("a.2", .null)]), ("$set", .document [("a.4", .int32 5)])] =
        .ok us ∧
      us.apply ⟨false, 0⟩ [("a", .array [.int32 1])] =
        .ok true [("a", .array [.int32 1, .null, .null, .null, .int32 5])] ∧
      ∀ m ∈ us.mutations, m.action.Repeatable := by
    refine ⟨_, rfl, rfl, fun m hm => ?_⟩
    rcases List.mem_cons.mp hm with rfl | hm
    · trivial
    · obtain rfl := List.mem_singleton.mp hm
      trivial
  obtain ⟨changed', hagain⟩ := apply_again h hrepeat ⟨false, 0⟩ hrun
  exact ⟨us, changed', h, hrun, hagain⟩

end UpdateSpec

end DocUpdate
