import Mathlib.Data.Set.Insert
import DocUpdate.Proofs.Value.Canon
import DocUpdate.Proofs.Value.Numbers

/-!
# The order of values is the order of their canonical forms

This holds unless a double is compared with a decimal, so the laws of a total order hold among
values that have no doubles in them, and among values that have no decimals in them.
-/

namespace DocUpdate.Value

/-! ## Canonical forms -/

mutual

/-- The canonical form of a value. -/
def canon : Value → Canon
  | minKey => .minKey
  | maxKey => .maxKey
  | null | undefined => .null
  | bool b => .bool b
  | int32 n => .number (.finite n.toInt)
  | int64 n => .number (.finite n.toInt)
  | double x => .number x.size
  | decimal d => .number d.size
  | string text | symbol text => .text text
  | document fields => .document (canonFields fields)
  | array items => .array (canonItems items)
  | binary subtype bytes => .binary subtype bytes
  | objectId id => .objectId id
  | date millis => .date millis
  | timestamp seconds increment => .timestamp seconds increment
  | regex pattern options => .regex pattern options
  | dbPointer _ _ => .dbPointer
  | javascript code => .javascript code
  | javascriptWithScope code scope => .javascriptWithScope code (canonFields scope)

def canonFields : List (String × Value) → List (String × Canon)
  | [] => []
  | (k, v) :: rest => (k, canon v) :: canonFields rest

def canonItems : List Value → List Canon
  | [] => []
  | v :: rest => canon v :: canonItems rest

end

mutual

/-- The form of a value in which numbers have a size of our choice. -/
def canonBy (size : Number → Size) : Value → Canon
  | minKey => .minKey
  | maxKey => .maxKey
  | null | undefined => .null
  | bool b => .bool b
  | int32 n => .number (size (.int n.toInt))
  | int64 n => .number (size (.int n.toInt))
  | double x => .number (size (.double x))
  | decimal d => .number (size (.decimal d))
  | string text | symbol text => .text text
  | document fields => .document (canonFieldsBy size fields)
  | array items => .array (canonItemsBy size items)
  | binary subtype bytes => .binary subtype bytes
  | objectId id => .objectId id
  | date millis => .date millis
  | timestamp seconds increment => .timestamp seconds increment
  | regex pattern options => .regex pattern options
  | dbPointer _ _ => .dbPointer
  | javascript code => .javascript code
  | javascriptWithScope code scope => .javascriptWithScope code (canonFieldsBy size scope)

def canonFieldsBy (size : Number → Size) : List (String × Value) → List (String × Canon)
  | [] => []
  | (k, v) :: rest => (k, canonBy size v) :: canonFieldsBy size rest

def canonItemsBy (size : Number → Size) : List Value → List Canon
  | [] => []
  | v :: rest => canonBy size v :: canonItemsBy size rest

end

section CanonBy

variable {size : Number → Size} {a b : Value}

theorem rank_canonBy (size : Number → Size) (v : Value) : (v.canonBy size).rank = v.rank := by
  cases v <;> rfl

theorem canonFieldsBy_eq_map (fields : Fields) :
    canonFieldsBy size fields = fields.map fun field => (field.1, field.2.canonBy size) := by
  induction fields with
  | nil => rfl
  | cons field rest ih => rw [canonFieldsBy, ih, List.map_cons]

theorem canonItemsBy_eq_map (items : List Value) :
    canonItemsBy size items = items.map (canonBy size) := by
  induction items with
  | nil => rfl
  | cons item rest ih => rw [canonItemsBy, ih, List.map_cons]

theorem canonFields_eq {fields : Fields}
    (h : ∀ field ∈ fields, field.2.canon = field.2.canonBy Number.size) :
    canonFields fields = canonFieldsBy Number.size fields := by
  induction fields with
  | nil => rfl
  | cons field rest ih =>
    rw [canonFields, canonFieldsBy, h field (by simp), ih fun f hf => h f (by simp [hf])]

theorem canonItems_eq {items : List Value} (h : ∀ item ∈ items, item.canon = item.canonBy Number.size) :
    canonItems items = canonItemsBy Number.size items := by
  induction items with
  | nil => rfl
  | cons item rest ih =>
    rw [canonItems, canonItemsBy, h item (by simp), ih fun i hi => h i (by simp [hi])]

/-- In the canonical form numbers have their exact size. -/
theorem canon_eq_canonBy (v : Value) : v.canon = v.canonBy Number.size := by
  induction v using Value.induction with
  | document fields ih => rw [canon, canonBy, canonFields_eq ih]
  | array items ih => rw [canon, canonBy, canonItems_eq ih]
  | scope code scope ih => rw [canon, canonBy, canonFields_eq ih]
  | plain v hv => cases v <;> cases hv <;> rfl

/-! ## Numbers -/

theorem cmp_of_number {x y : Number} (ha : a.number? = some x) (hb : b.number? = some y) :
    a.cmp b = x.cmp y := by
  cases a <;> cases ha <;> cases b <;> cases hb <;> rfl

theorem canonBy_of_number {x : Number} (h : a.number? = some x) :
    a.canonBy size = .number (size x) := by
  cases a <;> cases h <;> rfl

theorem rank_of_number {x : Number} (h : a.number? = some x) : a.rank = 2 := by
  cases a <;> cases h <;> rfl

theorem number?_of_rank (h : a.rank = 2) : ∃ x, a.number? = some x := by
  cases a <;> first | exact ⟨_, rfl⟩ | cases h

/-! ## Values -/

theorem cmp_of_rank_ne (h : a.rank ≠ b.rank) : a.cmp b = compare a.rank b.rank := by
  fun_cases cmp a b
  all_goals try exact absurd rfl h
  unfold cmpPlain
  split
  · rename_i x y hx hy
    exact absurd ((rank_of_number hx).trans (rank_of_number hy).symm) h
  · rfl

theorem cmp_eq_canonBy_of_rank
    (h : a.rank = b.rank → a.cmp b = (a.canonBy size).cmp (b.canonBy size)) :
    a.cmp b = (a.canonBy size).cmp (b.canonBy size) := by
  by_cases hrank : a.rank = b.rank
  · exact h hrank
  · rw [cmp_of_rank_ne hrank, Canon.cmp_of_rank_ne _ _ (by rwa [rank_canonBy, rank_canonBy]),
      rank_canonBy, rank_canonBy]

theorem lexicographic_fields : Lexicographic
    (fun x y : String × Value => (compare x.1 y.1).then (x.2.cmp y.2)) cmpFields where
  nil_nil := by rw [cmpFields]
  nil_cons _ _ := by rw [cmpFields]
  cons_nil _ _ := by rw [cmpFields]
  cons_cons _ _ _ _ := by rw [cmpFields]

theorem lexicographic_items : Lexicographic cmp cmpItems where
  nil_nil := by rw [cmpItems]
  nil_cons _ _ := by rw [cmpItems]
  cons_nil _ _ := by rw [cmpItems]
  cons_cons _ _ _ _ := by rw [cmpItems]

theorem cmpFields_eq_canonBy {xs ys : Fields}
    (h : ∀ x ∈ xs, ∀ y ∈ ys, x.2.cmp y.2 = (x.2.canonBy size).cmp (y.2.canonBy size)) :
    cmpFields xs ys = Canon.cmpFields (canonFieldsBy size xs) (canonFieldsBy size ys) := by
  rw [canonFieldsBy_eq_map, canonFieldsBy_eq_map]
  refine lexicographic_fields.map Canon.lexicographic_fields fun x hx y hy => ?_
  exact congrArg (compare x.1 y.1).then (h x hx y hy)

theorem cmpItems_eq_canonBy {xs ys : List Value}
    (h : ∀ x ∈ xs, ∀ y ∈ ys, x.cmp y = (x.canonBy size).cmp (y.canonBy size)) :
    cmpItems xs ys = Canon.cmpItems (canonItemsBy size xs) (canonItemsBy size ys) := by
  rw [canonItemsBy_eq_map, canonItemsBy_eq_map]
  exact lexicographic_items.map Canon.lexicographic_items h

/-- A value that is not a number is compared by what its form keeps of it. -/
theorem cmp_plain_eq_canonBy (size : Number → Size) (ha : a.isPlain = true)
    (hnumber : a.number? = none) : a.cmp b = (a.canonBy size).cmp (b.canonBy size) ∧
      b.cmp a = (b.canonBy size).cmp (a.canonBy size) := by
  cases a <;> cases ha <;> cases hnumber <;> cases b <;> exact ⟨rfl, rfl⟩

/-- Values are ordered as their forms, if the sizes of the numbers in them are ordered as the
numbers are. -/
theorem cmp_eq_canonBy
    (h : ∀ x ∈ a.numbers, ∀ y ∈ b.numbers, x.cmp y = (size x).cmp (size y)) :
    a.cmp b = (a.canonBy size).cmp (b.canonBy size) := by
  induction a using Value.induction generalizing b with
  | document xs ih =>
    refine cmp_eq_canonBy_of_rank fun hrank => ?_
    cases b
    case document ys =>
      refine cmpFields_eq_canonBy fun x hx y hy => ih x hx fun m hm n hn => ?_
      exact h m (mem_numbers_field hx hm) n (mem_numbers_field hy hn)
    all_goals cases hrank
  | array xs ih =>
    refine cmp_eq_canonBy_of_rank fun hrank => ?_
    cases b
    case array ys =>
      refine cmpItems_eq_canonBy fun x hx y hy => ih x hx fun m hm n hn => ?_
      exact h m (mem_numbers_item hx hm) n (mem_numbers_item hy hn)
    all_goals cases hrank
  | scope c s ih =>
    refine cmp_eq_canonBy_of_rank fun hrank => ?_
    cases b
    case javascriptWithScope d t =>
      refine congrArg (compare c d).then ?_
      refine cmpFields_eq_canonBy fun x hx y hy => ih x hx fun m hm n hn => ?_
      exact h m (mem_numbers_scope hx hm) n (mem_numbers_scope hy hn)
    all_goals cases hrank
  | plain a ha =>
    refine cmp_eq_canonBy_of_rank fun hrank => ?_
    cases hx : a.number? with
    | none => exact (cmp_plain_eq_canonBy size ha hx).1
    | some x =>
      obtain ⟨y, hy⟩ := number?_of_rank (hrank ▸ rank_of_number hx)
      rw [cmp_of_number hx hy, canonBy_of_number hx, canonBy_of_number hy, Canon.cmp]
      exact h x (mem_numbers_of_number hx) y (mem_numbers_of_number hy)

end CanonBy

/-! ## Doubles and decimals -/

/-- One value has a double in it and the other a decimal. -/
def Mixed (a b : Value) : Prop :=
  (a.Holds .double ∧ b.Holds .decimal) ∨ (a.Holds .decimal ∧ b.Holds .double)

theorem mixed_of_numbers {a b : Value} {x y : Number} (hx : x ∈ a.numbers) (hy : y ∈ b.numbers)
    (h : x.Mixed y) : a.Mixed b := by
  obtain ⟨u, hu, hnumber⟩ := exists_of_mem_numbers hx
  obtain ⟨w, hw, hnumber'⟩ := exists_of_mem_numbers hy
  cases u <;> cases hnumber <;> cases w <;> cases hnumber' <;> first
    | exact .inl ⟨⟨_, hu, rfl⟩, ⟨_, hw, rfl⟩⟩
    | exact .inr ⟨⟨_, hu, rfl⟩, ⟨_, hw, rfl⟩⟩
    | exact h.elim

/-- Values are ordered as their canonical forms, except where a double meets a decimal. -/
theorem cmp_eq_canon {a b : Value} (h : ¬ a.Mixed b) : a.cmp b = a.canon.cmp b.canon := by
  rw [canon_eq_canonBy, canon_eq_canonBy]
  refine cmp_eq_canonBy fun x hx y hy => ?_
  exact Number.cmp_eq_size fun hmixed => h (mixed_of_numbers hx hy hmixed)

/-! ## Laws -/

theorem cmp_swap_of_rank {a b : Value} (h : a.rank = b.rank → b.cmp a = (a.cmp b).swap) :
    b.cmp a = (a.cmp b).swap := by
  by_cases hrank : a.rank = b.rank
  · exact h hrank
  · rw [cmp_of_rank_ne hrank, cmp_of_rank_ne (Ne.symm hrank)]
    exact Std.OrientedCmp.eq_swap

theorem cmpFields_swap {xs ys : Fields} (h : ∀ x ∈ xs, ∀ y ∈ ys, y.2.cmp x.2 = (x.2.cmp y.2).swap) :
    cmpFields ys xs = (cmpFields xs ys).swap := by
  refine lexicographic_fields.swap fun x hx y hy => ?_
  have hname : compare y.1 x.1 = (compare x.1 y.1).swap := Std.OrientedCmp.eq_swap
  rw [Ordering.swap_then, h x hx y hy, hname]

/-- The comparison is reversed with its arguments, whatever stands in them. -/
theorem cmp_swap (a b : Value) : b.cmp a = (a.cmp b).swap := by
  induction a using Value.induction generalizing b with
  | document xs ih =>
    refine cmp_swap_of_rank fun hrank => ?_
    cases b
    case document ys =>
      rw [cmp, cmp]
      exact cmpFields_swap fun x hx y _ => ih x hx y.2
    all_goals cases hrank
  | array xs ih =>
    refine cmp_swap_of_rank fun hrank => ?_
    cases b
    case array ys =>
      rw [cmp, cmp]
      exact lexicographic_items.swap fun x hx y _ => ih x hx y
    all_goals cases hrank
  | scope c s ih =>
    refine cmp_swap_of_rank fun hrank => ?_
    cases b
    case javascriptWithScope d t =>
      have hcode : compare d c = (compare c d).swap := Std.OrientedCmp.eq_swap
      rw [cmp, cmp, Ordering.swap_then, hcode, cmpFields_swap fun x hx y _ => ih x hx y.2]
    all_goals cases hrank
  | plain a ha =>
    refine cmp_swap_of_rank fun hrank => ?_
    cases hx : a.number? with
    | none =>
      obtain ⟨hab, hba⟩ := cmp_plain_eq_canonBy (b := b) Number.size ha hx
      rw [hab, hba]
      exact Std.OrientedCmp.eq_swap
    | some x =>
      obtain ⟨y, hy⟩ := number?_of_rank (hrank ▸ rank_of_number hx)
      rw [cmp_of_number hx hy, cmp_of_number hy hx, Number.cmp_swap]

instance : Std.OrientedCmp cmp := ⟨cmp_swap _ _⟩

/-- A value is neither before nor after itself, whatever stands in it. -/
@[simp] theorem cmp_self (v : Value) : v.cmp v = .eq := Std.ReflCmp.compare_self

section Unmixed

variable {a b c : Value}

theorem cmp_lt_trans (hab : ¬ a.Mixed b) (hbc : ¬ b.Mixed c) (hac : ¬ a.Mixed c)
    (h : a.cmp b = .lt) (h' : b.cmp c = .lt) : a.cmp c = .lt := by
  rw [cmp_eq_canon hab] at h
  rw [cmp_eq_canon hbc] at h'
  rw [cmp_eq_canon hac]
  exact Std.TransCmp.lt_trans h h'

theorem cmp_eq_iff (h : ¬ a.Mixed b) : a.cmp b = .eq ↔ a.canon = b.canon := by
  rw [cmp_eq_canon h, Std.LawfulEqCmp.compare_eq_iff_eq]

end Unmixed

/-- No value of the set has a double in it, or none has a decimal. -/
def Unmixed (S : Set Value) : Prop :=
  (∀ v ∈ S, ¬ v.Holds .double) ∨ (∀ v ∈ S, ¬ v.Holds .decimal)

theorem Unmixed.not_mixed {S : Set Value} (h : Unmixed S) {a b : Value} (ha : a ∈ S) (hb : b ∈ S) :
    ¬ a.Mixed b := by
  rcases h with h | h
  · exact fun hmixed => hmixed.elim (fun hd => h a ha hd.1) (fun hd => h b hb hd.2)
  · exact fun hmixed => hmixed.elim (fun hd => h b hb hd.2) (fun hd => h a ha hd.1)

theorem Unmixed.mono {S T : Set Value} (h : Unmixed T) (hsub : ∀ v ∈ S, v ∈ T) : Unmixed S :=
  h.imp (fun hd v hv => hd v (hsub v hv)) (fun hd v hv => hd v (hsub v hv))

/-- Among values that do not mix doubles and decimals, comparing is a total order, and those
that compare as equal are the ones with one canonical form. -/
theorem cmp_laws_of_unmixed {S : Set Value} (h : Unmixed S) :
    (∀ a ∈ S, ∀ b ∈ S, b.cmp a = (a.cmp b).swap) ∧
    (∀ a ∈ S, ∀ b ∈ S, ∀ c ∈ S, a.cmp b = .lt → b.cmp c = .lt → a.cmp c = .lt) ∧
    (∀ a ∈ S, ∀ b ∈ S, ∀ c ∈ S, a.cmp b = .eq → b.cmp c = .eq → a.cmp c = .eq) ∧
    (∀ a ∈ S, ∀ b ∈ S, a.cmp b = .eq ↔ a.canon = b.canon) := by
  refine ⟨?swap, ?lt, ?eq, ?canon⟩
  case swap => exact fun a _ b _ => cmp_swap a b
  case lt =>
    exact fun a ha b hb c hc =>
      cmp_lt_trans (h.not_mixed ha hb) (h.not_mixed hb hc) (h.not_mixed ha hc)
  case eq =>
    intro a ha b hb c hc hab hbc
    rw [cmp_eq_iff (h.not_mixed ha hb)] at hab
    rw [cmp_eq_iff (h.not_mixed hb hc)] at hbc
    rw [cmp_eq_iff (h.not_mixed ha hc)]
    exact hab.trans hbc
  case canon => exact fun a ha b hb => cmp_eq_iff (h.not_mixed ha hb)

theorem cmp_laws_of_three_arrays :
    let a := array [undefined, int32 1]
    let b := array [null, double ⟨0x4000000000000000⟩]
    let c := array [null, int64 3]
    Unmixed {a, b, c} ∧ a.cmp b = .lt ∧ b.cmp c = .lt ∧ a.cmp c = .lt ∧ b.cmp a = .gt := by
  intro a b c
  have h : Unmixed {a, b, c} := by
    refine .inr ?_
    rintro v (rfl | rfl | rfl) <;> exact not_holds_array_of_plain (by decide) (by decide)
  have hab : a.cmp b = .lt := by decide
  have hbc : b.cmp c = .lt := by decide
  obtain ⟨swap, lt, -, -⟩ := cmp_laws_of_unmixed h
  refine ⟨h, hab, hbc, lt a (by simp) b (by simp) c (by simp) hab hbc, ?_⟩
  rw [swap a (by simp) b (by simp), hab]
  rfl

end DocUpdate.Value
