import DocUpdate.Proofs.Update.Outcome

/-!
# What a mutation leaves alone

A mutation that fails leaves the document as it was. One that succeeds leaves alone whatever
is apart from the paths it claims.
-/

namespace DocUpdate

/-! ## Runs of plans -/

namespace Planned

variable {planned : Planned} {doc after : Fields} {changed : Bool} {e : UpdateError}

theorem run_eq_ok : planned.run doc = .ok changed after ↔
    ∃ plan, planned = .ok plan ∧ plan.changed = changed ∧ doc.changeAll plan.changes = after := by
  cases planned <;> simp [run, Edit.fail, Edit.stop]

theorem run_eq_error : planned.run doc = .error e after ↔ planned = .error e ∧ doc = after := by
  cases planned <;> simp [run, Edit.fail, Edit.stop]

end Planned

/-! ## Runs of mutations -/

section

variable {options : Options} {m : Mutation} {ms rest : List Mutation} {doc after : Fields}
  {changed : Bool} {e : UpdateError}

theorem applyAll_cons_ok (h : applyAll options (m :: rest) doc = .ok changed after) :
    ∃ first mid later, m.apply options doc = .ok first mid ∧
      applyAll options rest mid = .ok later after ∧ changed = (first || later) := by
  obtain ⟨first, mid, hm, h⟩ := Edit.bind_eq_ok.mp h
  obtain ⟨later, last, hrest, h⟩ := Edit.bind_eq_ok.mp h
  obtain ⟨rfl, rfl⟩ := Edit.pure_eq_ok.mp h
  exact ⟨first, mid, later, hm, hrest, rfl⟩

theorem applyAll_cons_error (h : applyAll options (m :: rest) doc = .error e after) :
    m.apply options doc = .error e after ∨
      ∃ first mid, m.apply options doc = .ok first mid ∧
        applyAll options rest mid = .error e after := by
  rcases Edit.bind_eq_error.mp h with hm | ⟨first, mid, hm, h⟩
  · exact .inl hm
  · rcases Edit.bind_eq_error.mp h with hrest | ⟨later, last, -, h⟩
    · exact .inr ⟨first, mid, hm, hrest⟩
    · cases h

theorem applyAll_cons_of_ok {first later : Bool} {mid : Fields}
    (hm : m.apply options doc = .ok first mid)
    (hrest : applyAll options rest mid = .ok later after) :
    applyAll options (m :: rest) doc = .ok (first || later) after := by
  rw [applyAll, Edit.bind_of_ok hm, Edit.bind_of_ok hrest, Edit.pure_run]

/-- A run fails where one of its mutations does, after all that stand before it. -/
theorem applyAll_error (h : applyAll options ms doc = .error e after) :
    ∃ done m rest changed mid, ms = done ++ m :: rest ∧
      applyAll options done doc = .ok changed mid ∧ m.apply options mid = .error e after := by
  induction ms generalizing doc with
  | nil => cases h
  | cons m rest ih =>
    rcases applyAll_cons_error h with hm | ⟨first, mid, hm, hrest⟩
    · exact ⟨[], m, rest, false, doc, rfl, rfl, hm⟩
    · obtain ⟨done, n, rest, later, last, rfl, hdone, hn⟩ := ih hrest
      exact ⟨m :: done, n, rest, first || later, last, rfl, applyAll_cons_of_ok hm hdone, hn⟩

theorem Mutation.apply_error (hm : m.RenamesTop) (h : m.apply options doc = .error e after) :
    after = doc := by
  rw [apply_eq hm] at h
  exact (Planned.run_eq_error.mp h).2.symm

end

namespace UpdateSpec

/-- A mutation that fails leaves the document as it was. So an update document that fails
leaves what the mutations before the failing one made of it. -/
theorem failing_mutation_changes_nothing {spec : Fields} {us : UpdateSpec}
    (h : parse spec = .ok us) (options : Options) :
    (∀ m ∈ us.mutations, ∀ (doc after : Fields) (e : UpdateError),
      m.apply options doc = .error e after → after = doc) ∧
    (∀ (doc after : Fields) (e : UpdateError), us.apply options doc = .error e after →
      ∃ done m rest changed, us.mutations = done ++ m :: rest ∧
        applyAll options done doc = .ok changed after ∧
        m.apply options after = .error e after) := by
  constructor
  · intro m hm doc after e hfail
    exact Mutation.apply_error (renamesTop_of_parse h hm) hfail
  · intro doc after e hfail
    obtain ⟨done, m, rest, changed, mid, hus, hdone, hfail⟩ := applyAll_error hfail
    have hm : m ∈ us.mutations := by rw [hus]; simp
    obtain rfl := Mutation.apply_error (renamesTop_of_parse h hm) hfail
    exact ⟨done, m, rest, changed, hus, hdone, hfail⟩

/-- The second of two mutations fails on a null in its way. -/
theorem failing_set_below_null : ∃ us e done m rest changed,
    parse [("$set", .document [("a", .int32 1), ("b.c", .int32 2)])] = .ok us ∧
    us.mutations = done ++ m :: rest ∧
    applyAll ⟨false, 0⟩ done [("b", .null)] = .ok changed [("b", .null), ("a", .int32 1)] ∧
    m.apply ⟨false, 0⟩ [("b", .null), ("a", .int32 1)] =
      .error e [("b", .null), ("a", .int32 1)] := by
  have h : parse [("$set", .document [("a", .int32 1), ("b.c", .int32 2)])] = .ok _ := rfl
  have hfail := (failing_mutation_changes_nothing h ⟨false, 0⟩).2 [("b", .null)] _ _ rfl
  obtain ⟨done, m, rest, changed, hus, hdone, hm⟩ := hfail
  exact ⟨_, _, done, m, rest, changed, h, hus, hdone, hm⟩

end UpdateSpec

/-! ## Places apart -/

/-- A mutation does not touch places apart from those it claims. -/
theorem Mutation.place_apply_of_apart {options : Options} {m : Mutation} (hm : m.RenamesTop)
    {doc after : Fields} {changed : Bool} (h : m.apply options doc = .ok changed after)
    {q : Path} (hq : ∀ p ∈ m.claims, p.Apart q) (hin : (doc.place q).Inside) :
    after.place q = doc.place q := by
  rw [apply_eq hm] at h
  obtain ⟨plan, hplan, -, rfl⟩ := Planned.run_eq_ok.mp h
  exact Fields.place_changeAll_of_apart (fun c hc => hq _ (changes_claimed hplan hc)) hin

namespace UpdateSpec

/-- What stands apart from the paths of a mutation is read afterwards as before. -/
theorem read_apply_of_apart {spec : Fields} {us : UpdateSpec} (h : parse spec = .ok us)
    {m : Mutation} (hm : m ∈ us.mutations) (options : Options) {doc after : Fields}
    {changed : Bool} (happly : m.apply options doc = .ok changed after) {q : Path}
    (hq : ∀ p ∈ m.claims, p.overlaps q = false) {w : Value}
    (hread : doc.read q = .ok (some w)) : after.read q = .ok (some w) := by
  rw [Fields.read_eq, Place.read_eq_found_iff] at hread ⊢
  rw [Mutation.place_apply_of_apart (renamesTop_of_parse h hm) happly hq (by simp [hread]), hread]

/-- An item is kept while a document is created beside its array. -/
theorem read_item_beside_set : ∃ us m after,
    parse [("$set", .document [("b.c", .int32 1)])] = .ok us ∧ m ∈ us.mutations ∧
    m.apply ⟨false, 0⟩ [("a", .array [.int32 7])] = .ok true after ∧
    after.read ⟨⟨"a", by decide, by decide⟩, [⟨"0", by decide, by decide⟩]⟩ =
      .ok (some (.int32 7)) := by
  have h : parse [("$set", .document [("b.c", .int32 1)])] = .ok _ := rfl
  refine ⟨_, _, [("a", .array [.int32 7]), ("b", .document [("c", .int32 1)])], h,
    List.mem_singleton_self _, rfl, ?_⟩
  have hread : Fields.read [("a", .array [.int32 7])] ⟨⟨"a", by decide, by decide⟩,
      [⟨"0", by decide, by decide⟩]⟩ = .ok (some (.int32 7)) := rfl
  exact read_apply_of_apart h (List.mem_singleton_self _) ⟨false, 0⟩ rfl (by decide) hread

end UpdateSpec

end DocUpdate
