import DocUpdate.Proofs.Path.Writing
import DocUpdate.Proofs.Update.Effect

/-!
# What an edit makes of one place

Some edits look at nothing but the value at their path and succeed wherever one stands there or can
be written. Such an edit is known by the value it leaves, and a run of them by the last one.
-/

namespace DocUpdate

/-- What stands at a path: a value, or nothing where one can be written. -/
inductive Fields.ContentAt (doc : Fields) (p : Path) : Option Value → Prop where
  | present {v : Value} (read : doc.read p = .ok (some v)) : ContentAt doc p (some v)
  | missing (read : doc.read p = .ok none) (unobstructed : ¬ doc.Obstructs p) :
    ContentAt doc p none

namespace Fields

variable {doc : Fields} {p : Path} {content : Option Value} {v : Value}

theorem contentAt_iff :
    doc.ContentAt p content ↔ (doc.place p).fault? = none ∧ (doc.place p).value? = content := by
  constructor
  · rintro (hread | ⟨hread, hopen⟩)
    · rw [read_eq, Place.read_eq_found_iff] at hread
      simp [hread, Place.fault?, Place.value?]
    · rw [read_eq] at hread
      exact ⟨fault?_eq_none_iff.mpr hopen, Place.value?_of_read hread⟩
  · rintro ⟨hfree, rfl⟩
    cases hvalue : (doc.place p).value? with
    | some v => exact .present (by rw [read_eq, Place.value?_eq_some_iff.mp hvalue]; rfl)
    | none =>
      refine .missing ?_ (fault?_eq_none_iff.mp hfree)
      rw [read_eq, Place.read_of_free hfree hvalue]

theorem ContentAt.change (h : doc.ContentAt p content) (value : Value) :
    (doc.change ⟨p, some value⟩).ContentAt p (some value) := by
  have hfree := (contentAt_iff.mp h).1
  rw [contentAt_iff, place_change_self hfree value]
  exact ⟨rfl, rfl⟩

end Fields

/-! ## Single edits -/

namespace Edit

variable {edit : Edit Bool} {path : Path} {content : Option Value} {current value : Value}

/-- Wherever this content stands at the path the edit succeeds, with the value there instead. -/
def Makes (edit : Edit Bool) (path : Path) (content : Option Value) (value : Value) : Prop :=
  ∀ doc : Fields, doc.ContentAt path content →
    ∃ changed, edit doc = .ok changed (doc.change ⟨path, some value⟩)

theorem Makes.exists_put (h : edit.Makes path content value) {doc : Fields}
    (hcontent : doc.ContentAt path content) :
    ∃ changed after, edit doc = .ok changed after ∧ doc.Put path value after := by
  obtain ⟨changed, hrun⟩ := h doc hcontent
  exact ⟨changed, _, hrun, Fields.put_change (Fields.contentAt_iff.mp hcontent).1 value⟩

theorem makes_write (value : Value) : (write path value).Makes path content value := by
  intro doc hcontent
  have hfree := (Fields.contentAt_iff.mp hcontent).1
  exact ⟨true, by simp [write, Fields.write_eq, hfree]⟩

theorem makes_return_false : Makes (return false) path (some value) value := by
  intro doc hcontent
  have hvalue := (Fields.contentAt_iff.mp hcontent).2
  rw [Fields.change_of_found (Place.value?_eq_some_iff.mp hvalue)]
  exact ⟨false, rfl⟩

/-- Reading on the way to writing goes on with the content. -/
theorem makes_readForWrite {next : Option Value → Edit Bool}
    (h : (next content).Makes path content value) :
    (readForWrite path >>= next).Makes path content value := by
  intro doc hcontent
  obtain ⟨hfree, hvalue⟩ := Fields.contentAt_iff.mp hcontent
  obtain ⟨changed, hnext⟩ := h doc hcontent
  refine ⟨changed, ?_⟩
  rw [readForWrite_bind]
  cases hp : doc.place path <;> rw [hp] at hfree hvalue
  case blocked walk => cases hfree
  all_goals
    subst hvalue
    exact hnext

/-- What is set stands there afterwards, unless it is stored as another value already. -/
theorem makes_setValue (h : ∀ current, content = some current → current.same value →
    current = value) : (setValue path value).Makes path content value := by
  refine makes_readForWrite ?_
  cases content with
  | none => exact makes_write value
  | some current =>
    cases hsame : current.same value with
    | false => simpa [hsame] using makes_write value
    | true =>
      obtain rfl := h current rfl hsame
      simpa [hsame] using makes_return_false

end Edit

/-! ## Runs -/

/-- Carried out one after another the mutations succeed and leave the value at the path. -/
def Fields.RunsTo (doc : Fields) (options : Options) (ms : List Mutation) (path : Path)
    (value : Value) : Prop :=
  ∃ changed after, applyAll options ms doc = .ok changed after ∧ doc.Put path value after

section

variable {options : Options} {ms : List Mutation} {path : Path} {content : Option Value}
  {doc : Fields} {v w : Value}

theorem makes_applyAll_nil : (applyAll options []).Makes path (some v) v := Edit.makes_return_false

theorem makes_applyAll_cons {m : Mutation} (hm : (m.apply options).Makes path content v)
    (hms : (applyAll options ms).Makes path (some v) w) :
    (applyAll options (m :: ms)).Makes path content w := by
  intro doc hcontent
  obtain ⟨first, hfirst⟩ := hm doc hcontent
  obtain ⟨later, hlater⟩ := hms _ (hcontent.change v)
  rw [Fields.change_change] at hlater
  exact ⟨first || later, applyAll_cons_of_ok hfirst hlater⟩

theorem Edit.Makes.runsTo (h : (applyAll options ms).Makes path content v)
    (hcontent : doc.ContentAt path content) : doc.RunsTo options ms path v :=
  h.exists_put hcontent

end

end DocUpdate
