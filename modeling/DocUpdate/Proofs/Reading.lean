import Mathlib.Data.List.Forall2

/-!
# Readers

A reader gives a result or fails. What a run of readers gives is told by its steps.
-/

namespace DocUpdate

variable {ε α β : Type}

theorem bind_ok {x : Except ε α} {f : α → Except ε β} {b : β} (h : x >>= f = .ok b) :
    ∃ a, x = .ok a ∧ f a = .ok b := by
  cases hx : x with
  | error e => simp [hx, bind, Except.bind] at h
  | ok a => exact ⟨a, rfl, by simpa [hx, bind, Except.bind] using h⟩

theorem map_ok {x : Except ε α} {f : α → β} {b : β} (h : x.map f = .ok b) :
    ∃ a, x = .ok a ∧ f a = b := by
  cases hx : x with
  | error e => simp [hx, Except.map] at h
  | ok a => exact ⟨a, rfl, by simpa [hx, Except.map] using h⟩

/-- A result that is taken in can be told again. -/
theorem map_ok_iff {x : Except ε α} {f : α → β} (hf : Function.Injective f) {a : α} :
    x.map f = .ok (f a) ↔ x = .ok a := by
  constructor
  · intro h
    obtain ⟨b, hb, heq⟩ := map_ok h
    rw [hb, hf heq]
  · rintro rfl
    rfl

theorem mapError_ok {ε' : Type} {x : Except ε α} {f : ε → ε'} {a : α} :
    x.mapError f = .ok a ↔ x = .ok a := by
  cases x <;> simp [Except.mapError]

theorem mapError_error {ε' : Type} {x : Except ε α} {f : ε → ε'} {e' : ε'} :
    x.mapError f = .error e' ↔ ∃ e, x = .error e ∧ f e = e' := by
  cases x <;> simp [Except.mapError]

theorem bind_error {x : Except ε α} {f : α → Except ε β} {e : ε} (h : x >>= f = .error e) :
    x = .error e ∨ ∃ a, x = .ok a ∧ f a = .error e := by
  cases hx : x with
  | error fault => exact .inl (by simpa [hx, bind, Except.bind] using h)
  | ok a => exact .inr ⟨a, rfl, by simpa [hx, bind, Except.bind] using h⟩

theorem map_error {x : Except ε α} {f : α → β} {e : ε} (h : x.map f = .error e) :
    x = .error e := by
  cases hx : x with
  | error fault => simpa [hx, Except.map] using h
  | ok a => simp [hx, Except.map] at h

theorem map_eq_of_forall₂ {f : α → β} {xs ys : List α}
    (h : List.Forall₂ (fun x y => f x = f y) xs ys) : xs.map f = ys.map f := by
  rwa [← List.forall₂_eq_eq_eq, List.forall₂_map_left_iff, List.forall₂_map_right_iff]

/-- A list is read element by element. -/
theorem mapM_ok_iff {f : α → Except ε β} {xs : List α} {ys : List β} :
    xs.mapM f = .ok ys ↔ List.Forall₂ (fun x y => f x = .ok y) xs ys := by
  induction xs generalizing ys with
  | nil =>
    rw [List.mapM_nil, List.forall₂_nil_left_iff]
    exact ⟨by rintro ⟨⟩; rfl, by rintro rfl; rfl⟩
  | cons x rest ih =>
    rw [List.mapM_cons, List.forall₂_cons_left_iff]
    constructor
    · intro h
      obtain ⟨y, hy, h⟩ := bind_ok h
      obtain ⟨zs, hzs, h⟩ := bind_ok h
      cases h
      exact ⟨y, zs, hy, ih.mp hzs, rfl⟩
    · rintro ⟨y, zs, hy, hzs, rfl⟩
      rw [hy, ih.mpr hzs]
      rfl

theorem exists_mem_of_forall₂ {r : α → β → Prop} {xs : List α} {ys : List β}
    (h : List.Forall₂ r xs ys) {y : β} (hy : y ∈ ys) : ∃ x ∈ xs, r x y := by
  induction h with
  | nil => cases hy
  | cons hx _ ih =>
    rcases List.mem_cons.mp hy with rfl | hy
    · exact ⟨_, List.mem_cons_self, hx⟩
    · obtain ⟨x, hmem, hx⟩ := ih hy
      exact ⟨x, List.mem_cons_of_mem _ hmem, hx⟩

theorem mem_of_mapM_ok {f : α → Except ε β} {xs : List α} {ys : List β}
    (h : xs.mapM f = .ok ys) {y : β} (hy : y ∈ ys) : ∃ x ∈ xs, f x = .ok y :=
  exists_mem_of_forall₂ (mapM_ok_iff.mp h) hy

/-- The first element for which a reader fails decides the error. -/
theorem mapM_error {f : α → Except ε β} {xs : List α} {e : ε} (h : xs.mapM f = .error e) :
    ∃ before x later, xs = before ++ x :: later ∧ (∀ y ∈ before, ∃ z, f y = .ok z) ∧
      f x = .error e := by
  induction xs with
  | nil => cases h
  | cons x rest ih =>
    rw [List.mapM_cons] at h
    rcases bind_error h with hx | ⟨z, hz, h⟩
    · exact ⟨[], x, rest, rfl, by simp, hx⟩
    rcases bind_error h with hrest | ⟨zs, -, h⟩
    · obtain ⟨before, bad, later, rfl, hbefore, hbad⟩ := ih hrest
      refine ⟨x :: before, bad, later, rfl, ?_, hbad⟩
      intro y hy
      rcases List.mem_cons.mp hy with rfl | hy
      · exact ⟨z, hz⟩
      · exact hbefore y hy
    · cases h

/-- A list is read if each of its elements is. -/
theorem exists_mapM_ok_iff {f : α → Except ε β} {xs : List α} :
    (∃ ys, xs.mapM f = .ok ys) ↔ ∀ x ∈ xs, ∃ y, f x = .ok y := by
  constructor
  · rintro ⟨ys, hys⟩
    have hread := mapM_ok_iff.mp hys
    clear hys
    induction hread with
    | nil => simp
    | cons hx _ ih => exact List.forall_mem_cons.mpr ⟨⟨_, hx⟩, ih⟩
  · intro h
    cases hxs : xs.mapM f with
    | ok ys => exact ⟨ys, rfl⟩
    | error e =>
      obtain ⟨before, x, later, rfl, -, hx⟩ := mapM_error hxs
      obtain ⟨y, hy⟩ := h x (by simp)
      rw [hx] at hy
      cases hy

/-! ## Readers that agree -/

/-- Both fail, or their results are related. -/
inductive Agree (r : α → β → Prop) : Except ε α → Except ε β → Prop where
  | ok {a : α} {b : β} (h : r a b) : Agree r (.ok a) (.ok b)
  | error (e f : ε) : Agree r (.error e) (.error f)

namespace Agree

variable {α' β' : Type} {r : α → β → Prop} {s : α' → β' → Prop} {x : Except ε α} {y : Except ε β}

theorem refl {r : α → α → Prop} (h : ∀ a, r a a) (x : Except ε α) : Agree r x x := by
  cases x with
  | ok a => exact .ok (h a)
  | error e => exact .error e e

theorem trans {r : α → α → Prop} (h : ∀ a b c, r a b → r b c → r a c) {x y z : Except ε α}
    (hxy : Agree r x y) (hyz : Agree r y z) : Agree r x z := by
  cases hxy with
  | ok hab =>
    cases hyz with
    | ok hbc => exact .ok (h _ _ _ hab hbc)
  | error e _ =>
    cases hyz with
    | error _ f => exact .error e f

theorem mono {r' : α → β → Prop} (h : Agree r x y) (hr : ∀ a b, r a b → r' a b) :
    Agree r' x y := by
  cases h with
  | ok hab => exact .ok (hr _ _ hab)
  | error e f => exact .error e f

theorem map {f : α → α'} {g : β → β'} (h : Agree r x y) (hfg : ∀ a b, r a b → s (f a) (g b)) :
    Agree s (x.map f) (y.map g) := by
  cases h with
  | ok hab => exact .ok (hfg _ _ hab)
  | error e f => exact .error e f

theorem bind {f : α → Except ε α'} {g : β → Except ε β'} (h : Agree r x y)
    (hfg : ∀ a b, r a b → Agree s (f a) (g b)) : Agree s (x >>= f) (y >>= g) := by
  cases h with
  | ok hab => exact hfg _ _ hab
  | error e f => exact .error e f

end Agree

/-- Lists are read alike if their elements are. -/
theorem agree_mapM_of_forall₂ {α' β' : Type} {r : β → β' → Prop} {f : α → Except ε β}
    {g : α' → Except ε β'} {xs : List α} {ys : List α'}
    (h : List.Forall₂ (fun x y => Agree r (f x) (g y)) xs ys) :
    Agree (List.Forall₂ r) (xs.mapM f) (ys.mapM g) := by
  induction h with
  | nil => exact .ok .nil
  | cons hx _ ih =>
    rw [List.mapM_cons, List.mapM_cons]
    exact hx.bind fun _ _ hab => ih.bind fun _ _ hrest => .ok (.cons hab hrest)

/-- One element is read to an agreeing result, the others are the same. -/
theorem agree_mapM_replaced {r : β → β → Prop} {f : α → Except ε β} {x y : α}
    (h : Agree r (f x) (f y)) (hr : ∀ b, r b b) (before after : List α) :
    Agree (List.Forall₂ r) ((before ++ x :: after).mapM f) ((before ++ y :: after).mapM f) := by
  apply agree_mapM_of_forall₂
  induction before with
  | nil => exact .cons h (List.forall₂_same.mpr fun z _ => .refl hr (f z))
  | cons z rest ih => exact .cons (.refl hr (f z)) ih

/-- The order of a list is the order of what is read from it. -/
theorem agree_mapM_of_perm {f : α → Except ε β} {xs ys : List α} (h : xs.Perm ys) :
    Agree List.Perm (xs.mapM f) (ys.mapM f) := by
  induction h with
  | nil => exact .ok .nil
  | cons x _ ih =>
    rw [List.mapM_cons, List.mapM_cons]
    exact (Agree.refl (fun _ => rfl) (f x)).bind fun a _ hab =>
      ih.bind fun _ _ hrest => .ok (hab ▸ hrest.cons a)
  | swap x y rest =>
    simp only [List.mapM_cons]
    cases f x <;> cases f y
    case ok.ok a b =>
      cases rest.mapM f with
      | ok cs => exact .ok (.swap a b cs)
      | error e => exact .error e e
    all_goals exact .error _ _
  | trans _ _ ih ih' => exact ih.trans (fun _ _ _ => .trans) ih'

end DocUpdate
