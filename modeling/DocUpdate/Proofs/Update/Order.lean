import DocUpdate.Proofs.Path.Commute
import DocUpdate.Proofs.Update.Effect

/-!
# Mutations in any order

The mutations of an update document are planned as if each were alone, wherever they stand in
the list. So their order decides neither whether they succeed nor what they change, but for
the order of the fields they create.
-/

namespace DocUpdate

/-! ## Plans for a document -/

namespace Planned

def changed : Planned → Bool
  | .ok plan => plan.changed
  | _ => false

def changes : Planned → List Change
  | .ok plan => plan.changes
  | _ => []

/-- There is a plan. -/
def Succeeds (planned : Planned) : Prop := ∃ plan, planned = .ok plan

theorem Succeeds.run {planned : Planned} (h : planned.Succeeds) (doc : Fields) :
    planned.run doc = .ok planned.changed (doc.changeAll planned.changes) := by
  obtain ⟨plan, rfl⟩ := h
  rfl

end Planned

namespace Mutation

/-- What a mutation is going to do to a document. -/
def planFor (options : Options) (doc : Fields) (m : Mutation) : Planned :=
  m.plan options (doc.place m.path)

theorem apply_of_succeeds {options : Options} {doc : Fields} {m : Mutation} (hm : m.RenamesTop)
    (h : (m.planFor options doc).Succeeds) :
    m.apply options doc = .ok (m.planFor options doc).changed
      (doc.changeAll (m.planFor options doc).changes) := by
  rw [apply_eq hm]
  exact h.run doc

theorem succeeds_of_apply {options : Options} {doc after : Fields} {m : Mutation} {changed : Bool}
    (hm : m.RenamesTop) (h : m.apply options doc = .ok changed after) :
    (m.planFor options doc).Succeeds := by
  rw [apply_eq hm] at h
  obtain ⟨plan, hplan, -⟩ := Planned.run_eq_ok.mp h
  exact ⟨plan, hplan⟩

theorem planFor_changes_claimed (m : Mutation) (options : Options) (doc : Fields) :
    ∀ c ∈ (m.planFor options doc).changes, c.path ∈ m.claims := by
  intro c hc
  cases hplan : m.planFor options doc <;> rw [hplan] at hc
  case ok plan => exact changes_claimed hplan hc
  all_goals cases hc

end Mutation

theorem Fields.inside_of_top {p : Path} (h : p.tail = []) (doc : Fields) :
    (doc.place p).Inside := by
  rw [place_eq, h]
  cases doc.get? p.head.name <;> simp

/-- Everything that is planned for a document fits in. -/
theorem Mutation.fits_planFor {options : Options} {doc : Fields} {m : Mutation}
    (hm : m.RenamesTop) (hin : (doc.place m.path).Inside) :
    doc.Fits (m.planFor options doc).changes := by
  cases hplan : m.planFor options doc with
  | error | unordered => trivial
  | ok plan =>
    cases outcome_of_plan hplan with
    | kept => trivial
    | changed value => exact ⟨hin, trivial⟩
    | edited => exact ⟨hin, trivial⟩
    | renamed value ha =>
      obtain ⟨hsource, htarget, -⟩ := hm _ ha
      exact ⟨Fields.inside_of_top hsource _, Fields.inside_of_top htarget _,
        Fields.inside_of_top htarget _, trivial⟩

/-! ## Independent mutations -/

/-- The mutations claim places apart from each other, none of them past the end of an array. -/
structure Independent (doc : Fields) (ms : List Mutation) : Prop where
  apart : ms.Pairwise Mutation.ApartFrom
  renames : ∀ m ∈ ms, m.RenamesTop
  inside : ∀ m ∈ ms, ∀ p ∈ m.claims, (doc.place p).Inside

namespace Independent

variable {options : Options} {doc : Fields} {m : Mutation} {ms rest : List Mutation}
  {cs : List Change}

theorem perm {ns : List Mutation} (h : Independent doc ms) (hp : ms.Perm ns) :
    Independent doc ns where
  apart := (hp.pairwise_iff fun hmn => hmn.symm).mp h.apart
  renames n hn := h.renames n (hp.mem_iff.mpr hn)
  inside n hn := h.inside n (hp.mem_iff.mpr hn)

/-- The changes of the first mutation leave the places of the others. -/
theorem place_after (h : Independent doc (m :: rest)) (hcs : ∀ c ∈ cs, c.path ∈ m.claims)
    {n : Mutation} (hn : n ∈ rest) {q : Path} (hq : q ∈ n.claims) :
    (doc.changeAll cs).place q = doc.place q := by
  have hapart := (List.pairwise_cons.mp h.apart).1 n hn
  exact Fields.place_changeAll_of_apart (fun c hc => hapart _ (hcs c hc) q hq)
    (h.inside n (by simp [hn]) q hq)

theorem after (h : Independent doc (m :: rest)) (hcs : ∀ c ∈ cs, c.path ∈ m.claims) :
    Independent (doc.changeAll cs) rest where
  apart := (List.pairwise_cons.mp h.apart).2
  renames n hn := h.renames n (by simp [hn])
  inside n hn q hq := by
    rw [h.place_after hcs hn hq]
    exact h.inside n (by simp [hn]) q hq

theorem planFor_after (h : Independent doc (m :: rest)) (hcs : ∀ c ∈ cs, c.path ∈ m.claims)
    {n : Mutation} (hn : n ∈ rest) :
    n.planFor options (doc.changeAll cs) = n.planFor options doc := by
  rw [Mutation.planFor, h.place_after hcs hn n.path_mem_claims, Mutation.planFor]

/-! ## Runs -/

/-- The plans of the others are the same before and after the first mutation. -/
theorem map_planFor_after (h : Independent doc (m :: rest))
    (hcs : ∀ c ∈ cs, c.path ∈ m.claims) :
    rest.map (Mutation.planFor options (doc.changeAll cs)) =
      rest.map (Mutation.planFor options doc) :=
  List.map_congr_left fun _ hn => h.planFor_after hcs hn

/-- If every plan succeeds, the run carries out all of them. -/
theorem applyAll_of_succeeds (h : Independent doc ms)
    (hs : ∀ m ∈ ms, (m.planFor options doc).Succeeds) :
    applyAll options ms doc =
      .ok ((ms.map (Mutation.planFor options doc)).any Planned.changed)
        (doc.changeAll ((ms.map (Mutation.planFor options doc)).flatMap Planned.changes)) := by
  induction ms generalizing doc with
  | nil => rfl
  | cons m rest ih =>
    have hm := Mutation.apply_of_succeeds (h.renames m (by simp)) (hs m (by simp))
    have hcs := m.planFor_changes_claimed options doc
    have hrest := ih (h.after hcs) fun n hn => by
      rw [h.planFor_after hcs hn]
      exact hs n (by simp [hn])
    rw [h.map_planFor_after hcs] at hrest
    rw [applyAll_cons_of_ok hm hrest, List.map_cons, List.any_cons, List.flatMap_cons,
      Fields.changeAll_append]

/-- If the run succeeds, every plan does. -/
theorem succeeds_of_applyAll (h : Independent doc ms) {after : Fields} {changed : Bool}
    (hok : applyAll options ms doc = .ok changed after) :
    ∀ m ∈ ms, (m.planFor options doc).Succeeds := by
  induction ms generalizing doc changed with
  | nil => simp
  | cons m rest ih =>
    obtain ⟨first, mid, later, hm, hrest, -⟩ := applyAll_cons_ok hok
    have hs := Mutation.succeeds_of_apply (h.renames m (by simp)) hm
    have hcs := m.planFor_changes_claimed options doc
    rw [Mutation.apply_of_succeeds (h.renames m (by simp)) hs] at hm
    cases hm
    intro n hn
    rcases List.mem_cons.mp hn with rfl | hn
    · exact hs
    · rw [← h.planFor_after hcs hn]
      exact ih (h.after hcs) hrest n hn

/-! ## Permutations -/

/-- The changes planned for one document can be made mutation by mutation in any order. -/
theorem changeAll_perm {ns : List Mutation} {origin : Fields} (hp : ms.Perm ns)
    (h : Independent doc ms)
    (hplan : ∀ m ∈ ms, m.planFor options doc = m.planFor options origin) :
    (doc.changeAll ((ms.map (Mutation.planFor options origin)).flatMap Planned.changes)).Alike
      (doc.changeAll ((ns.map (Mutation.planFor options origin)).flatMap Planned.changes)) := by
  -- The plans stay those for `origin` while `doc` moves on, so the induction keeps both.
  induction hp generalizing doc with
  | nil => exact Fields.Alike.refl _
  | cons m hp ih =>
    have hcs := m.planFor_changes_claimed options origin
    simp only [List.map_cons, List.flatMap_cons, Fields.changeAll_append]
    refine ih (h.after hcs) fun n hn => ?_
    rw [h.planFor_after hcs hn]
    exact hplan n (by simp [hn])
  | swap m n rest =>
    have hapart := (List.pairwise_cons.mp h.apart).1 m (by simp)
    have hfits : doc.Fits (n.planFor options origin).changes := by
      rw [← hplan n (by simp)]
      exact Mutation.fits_planFor (h.renames n (by simp))
        (h.inside n (by simp) _ n.path_mem_claims)
    simp only [List.map_cons, List.flatMap_cons, Fields.changeAll_append]
    refine (Fields.changeAll_comm (fun c hc d hd => ?_) hfits).changeAll _
    exact hapart _ (n.planFor_changes_claimed options origin c hc) _
      (m.planFor_changes_claimed options origin d hd)
  | trans hp _ ih ih' =>
    exact (ih h hplan).trans (ih' (h.perm hp) fun n hn => hplan n (hp.mem_iff.mpr hn))

end Independent

namespace UpdateSpec

theorem independent_of_parse {spec : Fields} {us : UpdateSpec} (h : parse spec = .ok us)
    {doc : Fields} (hin : ∀ m ∈ us.mutations, ∀ p ∈ m.claims, (doc.place p).Inside) :
    Independent doc us.mutations :=
  ⟨pairwise_apart_of_parse h, fun _ hm => renamesTop_of_parse h hm, hin⟩

/-- The mutations of an update document can be carried out in any order. Each order succeeds
if every mutation does alone, and each tells of the same changes and leaves the same document
up to the order of fields. -/
theorem apply_in_any_order {spec : Fields} {us : UpdateSpec} (h : parse spec = .ok us)
    (options : Options) (doc : Fields)
    (hin : ∀ m ∈ us.mutations, ∀ p ∈ m.claims, (doc.place p).Inside) :
    (∀ ms : List Mutation, ms.Perm us.mutations →
      ((∃ changed after, apply options ⟨ms⟩ doc = .ok changed after) ↔
        ∀ m ∈ us.mutations, ∃ changed after, m.apply options doc = .ok changed after)) ∧
    (∀ ms ns : List Mutation, ms.Perm us.mutations → ns.Perm us.mutations →
      ∀ (changed changed' : Bool) (after after' : Fields),
        apply options ⟨ms⟩ doc = .ok changed after →
        apply options ⟨ns⟩ doc = .ok changed' after' →
        changed = changed' ∧ after.Alike after') := by
  have hus := independent_of_parse h hin
  have of_perm : ∀ ms : List Mutation, ms.Perm us.mutations → Independent doc ms :=
    fun ms hp => hus.perm hp.symm
  constructor
  · intro ms hp
    constructor
    · rintro ⟨changed, after, hok⟩ m hm
      have hs := (of_perm ms hp).succeeds_of_applyAll hok m (hp.mem_iff.mpr hm)
      exact ⟨_, _, Mutation.apply_of_succeeds (hus.renames m hm) hs⟩
    · intro hall
      refine ⟨_, _, (of_perm ms hp).applyAll_of_succeeds fun m hm => ?_⟩
      have hm := hp.mem_iff.mp hm
      obtain ⟨changed, after, hok⟩ := hall m hm
      exact Mutation.succeeds_of_apply (hus.renames m hm) hok
  · intro ms ns hms hns changed changed' after after' hok hok'
    have hp : ms.Perm ns := hms.trans hns.symm
    have hi := of_perm ms hms
    have hi' := of_perm ns hns
    have h₁ := hok.symm.trans (hi.applyAll_of_succeeds (hi.succeeds_of_applyAll hok))
    have h₂ := hok'.symm.trans (hi'.applyAll_of_succeeds (hi'.succeeds_of_applyAll hok'))
    cases h₁
    cases h₂
    exact ⟨(hp.map _).any_eq, hi.changeAll_perm hp fun _ _ => rfl⟩

/-- Two fields of a document that is created on the way. -/
theorem create_two_fields_in_any_order : ∃ us,
    parse [("$set", .document [("a.x", .int32 1), ("a.y", .int32 2)])] = .ok us ∧
    us.apply ⟨false, 0⟩ [] = .ok true [("a", .document [("x", .int32 1), ("y", .int32 2)])] ∧
    apply ⟨false, 0⟩ ⟨us.mutations.reverse⟩ [] =
      .ok true [("a", .document [("y", .int32 2), ("x", .int32 1)])] ∧
    Fields.Alike [("a", .document [("x", .int32 1), ("y", .int32 2)])]
      [("a", .document [("y", .int32 2), ("x", .int32 1)])] := by
  have h : parse [("$set", .document [("a.x", .int32 1), ("a.y", .int32 2)])] = .ok _ := rfl
  refine ⟨_, h, rfl, rfl, ?_⟩
  have hany := apply_in_any_order h ⟨false, 0⟩ [] fun _ _ _ _ => Place.inside_missing
  exact (hany.2 _ _ (.refl _) (List.reverse_perm _) true true _ _ rfl rfl).2

end UpdateSpec

end DocUpdate
