import DocUpdate.Proofs.Number.Size

/-!
# Canonical forms

Values that compare as equal have one canonical form. Undefined becomes null, a symbol becomes
a string, a number becomes its size and a pointer to a document loses what it points to. The
order of canonical forms is a total order, and forms that compare as equal are equal.
-/

namespace DocUpdate

/-- What is left of a value once the differences that the order does not see are gone. -/
inductive Canon where
  | minKey
  | null
  | number (size : Size)
  | text (text : String)
  | document (fields : List (String × Canon))
  | array (items : List Canon)
  | binary (subtype : UInt8) (bytes : List UInt8)
  | objectId (id : ObjectId)
  | bool (b : Bool)
  | date (millis : Int64)
  | timestamp (seconds increment : UInt32)
  | regex (pattern options : String)
  | dbPointer
  | javascript (code : String)
  | javascriptWithScope (code : String) (scope : List (String × Canon))
  | maxKey

namespace Canon

/-! ## Order -/

/-- The place of a form in the order. -/
def rank : Canon → Nat
  | minKey => 0
  | null => 1
  | number _ => 2
  | text _ => 3
  | document _ => 4
  | array _ => 5
  | binary _ _ => 6
  | objectId _ => 7
  | bool _ => 8
  | date _ => 9
  | timestamp _ _ => 10
  | regex _ _ => 11
  | dbPointer => 12
  | javascript _ => 13
  | javascriptWithScope _ _ => 14
  | maxKey => 15

mutual

/-- The order of canonical forms. -/
def cmp : Canon → Canon → Ordering
  | number p, number q => p.cmp q
  | text s, text t => compare s t
  | document xs, document ys => cmpFields xs ys
  | array xs, array ys => cmpItems xs ys
  | binary s xs, binary t ys =>
    ((compare xs.length ys.length).then (compare s t)).then (compare xs ys)
  | objectId x, objectId y => compare x.number.toNat y.number.toNat
  | bool x, bool y => compare x y
  | date x, date y => compare x y
  | timestamp s i, timestamp t j => (compare s t).then (compare i j)
  | regex p o, regex q r => (compare p q).then (compare o r)
  | javascript c, javascript d => compare c d
  | javascriptWithScope c s, javascriptWithScope d t => (compare c d).then (cmpFields s t)
  | a, b => compare a.rank b.rank

def cmpFields : List (String × Canon) → List (String × Canon) → Ordering
  | [], [] => .eq
  | [], _ :: _ => .lt
  | _ :: _, [] => .gt
  | (k, a) :: xs, (l, b) :: ys => ((compare k l).then (cmp a b)).then (cmpFields xs ys)

def cmpItems : List Canon → List Canon → Ordering
  | [], [] => .eq
  | [], _ :: _ => .lt
  | _ :: _, [] => .gt
  | a :: xs, b :: ys => (cmp a b).then (cmpItems xs ys)

end

theorem cmp_of_rank_ne (a b : Canon) (h : a.rank ≠ b.rank) : a.cmp b = compare a.rank b.rank := by
  fun_cases cmp a b <;> first | rfl | exact absurd rfl h

theorem lexicographic_fields :
    Lexicographic (fun x y : String × Canon => (compare x.1 y.1).then (cmp x.2 y.2)) cmpFields where
  nil_nil := by rw [cmpFields]
  nil_cons _ _ := by rw [cmpFields]
  cons_nil _ _ := by rw [cmpFields]
  cons_cons _ _ _ _ := by rw [cmpFields]

theorem lexicographic_items : Lexicographic cmp cmpItems where
  nil_nil := by rw [cmpItems]
  nil_cons _ _ := by rw [cmpItems]
  cons_nil _ _ := by rw [cmpItems]
  cons_cons _ _ _ _ := by rw [cmpItems]

/-! ## Laws -/

theorem lawfulAt_fields {fields : List (String × Canon)}
    (h : ∀ field ∈ fields, LawfulAt cmp field.2) : LawfulAt cmpFields fields :=
  .list lexicographic_fields fun field hfield => .prod (.of_compare field.1) (h field hfield)

/-- A form that is alone in its rank. -/
theorem lawfulAt_of_alone {a : Canon} (hself : a.cmp a = .eq)
    (h : ∀ b : Canon, b.rank = a.rank → b = a) : LawfulAt cmp a := by
  refine .within (f := fun _ : Unit => a) cmp_of_rank_ne ?_ ?_ ?_ (.of_unit ())
  · exact fun b hb => ⟨(), h b hb⟩
  · exact fun _ _ => hself
  · exact fun _ _ _ => rfl

/-- A form whose rank is that of one constructor. -/
theorem lawfulAt_of_rank {β : Type} {f : β → Canon} {other : β → β → Ordering} {b : β}
    (h : LawfulAt other b) (hcmp : ∀ x y, cmp (f x) (f y) = other x y)
    (hinj : Function.Injective f) (hsame : ∀ x : Canon, x.rank = (f b).rank → ∃ c, x = f c) :
    LawfulAt cmp (f b) := .within cmp_of_rank_ne hsame hcmp hinj h

theorem lawfulAt_of_rank₂ {β γ : Type} {f : β → γ → Canon} {first : β → β → Ordering}
    {second : γ → γ → Ordering} {b : β} {c : γ} (h : LawfulAt first b) (h' : LawfulAt second c)
    (hcmp : ∀ b c b' c', cmp (f b c) (f b' c') = (first b b').then (second c c'))
    (hinj : ∀ {b c b' c'}, f b c = f b' c' → b = b' ∧ c = c')
    (hsame : ∀ x : Canon, x.rank = (f b c).rank → ∃ b' c', x = f b' c') :
    LawfulAt cmp (f b c) := by
  have hpair : LawfulAt _ (b, c) := .prod h h'
  refine lawfulAt_of_rank (f := fun x : β × γ => f x.1 x.2) hpair ?_ ?_ ?_
  · exact fun x y => hcmp x.1 x.2 y.1 y.2
  · exact fun x y hxy => Prod.ext_iff.mpr (hinj hxy)
  · intro x hx
    obtain ⟨b', c', rfl⟩ := hsame x hx
    exact ⟨(b', c'), rfl⟩

theorem lawfulAt_binary (subtype : UInt8) (bytes : List UInt8) :
    LawfulAt cmp (binary subtype bytes) := by
  have hkey : Function.Injective fun x : UInt8 × List UInt8 => ((x.2.length, x.1), x.2) := by
    rintro ⟨s, xs⟩ ⟨t, ys⟩ h
    simp only [Prod.mk.injEq] at h
    rw [h.1.2, h.2]
  have h := LawfulAt.on hkey (b := (subtype, bytes))
    (.prod (.prod (.of_compare _) (.of_compare _)) (.of_compare _))
  refine lawfulAt_of_rank (f := fun x : UInt8 × List UInt8 => binary x.1 x.2) h ?_ ?_ ?_
  · exact fun _ _ => by rw [cmp]
  · exact fun x y hxy => Prod.ext_iff.mpr (binary.inj hxy)
  · rintro (_ | _) h <;> first | exact ⟨(_, _), rfl⟩ | cases h

theorem lawfulAt_objectId (id : ObjectId) : LawfulAt cmp (objectId id) := by
  have hkey : Function.Injective fun x : ObjectId => x.number.toNat := by
    rintro ⟨m⟩ ⟨n⟩ h
    exact congrArg ObjectId.mk (BitVec.eq_of_toNat_eq h)
  refine lawfulAt_of_rank (.on hkey (.of_compare _)) (fun _ _ => by rw [cmp])
    (fun _ _ => objectId.inj) ?_
  rintro (_ | _) h <;> first | exact ⟨_, rfl⟩ | cases h

theorem lawfulAt_document {fields : List (String × Canon)} (h : LawfulAt cmpFields fields) :
    LawfulAt cmp (document fields) := by
  refine lawfulAt_of_rank h (fun _ _ => by rw [cmp]) (fun _ _ => document.inj) ?_
  rintro (_ | _) h <;> first | exact ⟨_, rfl⟩ | cases h

theorem lawfulAt_array {items : List Canon} (h : LawfulAt cmpItems items) :
    LawfulAt cmp (array items) := by
  refine lawfulAt_of_rank h (fun _ _ => by rw [cmp]) (fun _ _ => array.inj) ?_
  rintro (_ | _) h <;> first | exact ⟨_, rfl⟩ | cases h

theorem lawfulAt_javascriptWithScope (code : String) {scope : List (String × Canon)}
    (h : LawfulAt cmpFields scope) : LawfulAt cmp (javascriptWithScope code scope) := by
  refine lawfulAt_of_rank₂ (.of_compare code) h (fun _ _ _ _ => by rw [cmp])
    javascriptWithScope.inj ?_
  rintro (_ | _) h <;> first | exact ⟨_, _, rfl⟩ | cases h

/-- The order of canonical forms is total, and forms that compare as equal are equal. -/
theorem lawfulAt : ∀ a : Canon, LawfulAt cmp a
  | minKey | null | dbPointer | maxKey => by
    refine lawfulAt_of_alone rfl ?_
    rintro (_ | _) h <;> first | rfl | cases h
  | number size => by
    refine lawfulAt_of_rank size.lawfulAt (fun _ _ => by rw [cmp]) (fun _ _ => number.inj) ?_
    rintro (_ | _) h <;> first | exact ⟨_, rfl⟩ | cases h
  | text s => by
    refine lawfulAt_of_rank (.of_compare s) (fun _ _ => by rw [cmp]) (fun _ _ => text.inj) ?_
    rintro (_ | _) h <;> first | exact ⟨_, rfl⟩ | cases h
  | bool b => by
    refine lawfulAt_of_rank (.of_compare b) (fun _ _ => by rw [cmp]) (fun _ _ => bool.inj) ?_
    rintro (_ | _) h <;> first | exact ⟨_, rfl⟩ | cases h
  | date millis => by
    refine lawfulAt_of_rank (.of_compare millis) (fun _ _ => by rw [cmp]) (fun _ _ => date.inj) ?_
    rintro (_ | _) h <;> first | exact ⟨_, rfl⟩ | cases h
  | javascript code => by
    refine lawfulAt_of_rank (.of_compare code) (fun _ _ => by rw [cmp])
      (fun _ _ => javascript.inj) ?_
    rintro (_ | _) h <;> first | exact ⟨_, rfl⟩ | cases h
  | timestamp seconds increment => by
    refine lawfulAt_of_rank₂ (.of_compare seconds) (.of_compare increment)
      (fun _ _ _ _ => by rw [cmp]) timestamp.inj ?_
    rintro (_ | _) h <;> first | exact ⟨_, _, rfl⟩ | cases h
  | regex pattern options => by
    refine lawfulAt_of_rank₂ (.of_compare pattern) (.of_compare options)
      (fun _ _ _ _ => by rw [cmp]) regex.inj ?_
    rintro (_ | _) h <;> first | exact ⟨_, _, rfl⟩ | cases h
  | binary subtype bytes => lawfulAt_binary subtype bytes
  | objectId id => lawfulAt_objectId id
  | document fields => lawfulAt_document (lawfulAt_fields fun field hfield => lawfulAt field.2)
  | array items =>
    lawfulAt_array (.list lexicographic_items fun item hitem => lawfulAt item)
  | javascriptWithScope code scope =>
    lawfulAt_javascriptWithScope code (lawfulAt_fields fun field hfield => lawfulAt field.2)
termination_by a => sizeOf a
decreasing_by
  · have := List.sizeOf_lt_of_mem hfield
    have : sizeOf field = 1 + sizeOf field.1 + sizeOf field.2 := rfl
    simp only [document.sizeOf_spec]
    omega
  · have := List.sizeOf_lt_of_mem hitem
    simp only [array.sizeOf_spec]
    omega
  · have := List.sizeOf_lt_of_mem hfield
    have : sizeOf field = 1 + sizeOf field.1 + sizeOf field.2 := rfl
    simp only [javascriptWithScope.sizeOf_spec]
    omega

instance : Std.TransCmp cmp := transCmp_of_lawfulAt lawfulAt

instance : Std.LawfulEqCmp cmp := lawfulEqCmp_of_lawfulAt lawfulAt

end Canon

end DocUpdate
