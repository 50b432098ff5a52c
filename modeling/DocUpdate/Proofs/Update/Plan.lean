import DocUpdate.Proofs.Update.Parsed
import DocUpdate.Update.Apply

/-!
# What a mutation is going to do

A mutation looks at the place of its path once. That place decides whether it fails, what it
answers and which changes it makes, and no change is made before the last thing that can fail.
-/

namespace DocUpdate

/-! ## Plans -/

/-- The answer of a mutation and the changes it makes. -/
structure Plan where
  changed : Bool
  changes : List Change

/-- What becomes of the items of an array, unless sorting them stops, and whether that is told
of. -/
structure ItemsEdit where
  result? : List Value → Option (List Value)
  changed : List Value → List Value → Bool

namespace ItemsEdit

/-- An edit that tells of a change by the number of items. -/
def counted (f : List Value → List Value) : ItemsEdit :=
  ⟨fun items => some (f items), fun items result => items.length != result.length⟩

/-- Inserting, sorting and slicing. -/
def push (p : Push) : ItemsEdit where
  result? := p.result?
  changed items result :=
    if p.sort.isSome || p.slice.isSome then !Value.sameItems items result else !p.each.isEmpty

end ItemsEdit

/-- A plan, or what comes in its place. -/
inductive Planned where
  | ok (plan : Plan)
  | error (error : UpdateError)
  | unordered

namespace Planned

/-- Answers with the plan, or fails with the document as it is. -/
def run : Planned → Edit Bool
  | ok plan => fun doc => .ok plan.changed (doc.changeAll plan.changes)
  | error e => Edit.fail e
  | unordered => Edit.stop

def keep : Planned := .ok ⟨false, []⟩

def write (path : Path) (place : Place) (value : Value) : Planned :=
  match place.fault? with
  | some fault => .error (.unwritable path fault)
  | none => .ok ⟨true, [⟨path, some value⟩]⟩

/-- Goes on with what is found on the way to writing it. -/
def forWrite (path : Path) (place : Place) (next : Option Value → Planned) : Planned :=
  match place with
  | .blocked walk => .error (.unwritable path (.blocked walk))
  | place => next place.value?

/-- Goes on with what is found where it has to be reachable. -/
def forRead (path : Path) (place : Place) (next : Option Value → Planned) : Planned :=
  match place with
  | .blocked walk => .error (.blockedPath path walk)
  | place => next place.value?

/-! ## Single values -/

def setValue (path : Path) (place : Place) (value : Value) : Planned :=
  forWrite path place fun
    | some current => if current.same value then keep else write path place value
    | none => write path place value

def inc (path : Path) (place : Place) (amount : Value) : Planned :=
  forWrite path place fun
    | none => setValue path place amount
    | some current =>
      match Value.arithmetic .add current amount with
      | some sum => setValue path place sum
      | none => .error (.mismatch .inc path (.notNumeric current.kind))

def mul (path : Path) (place : Place) (factor : Value) : Planned :=
  forWrite path place fun
    | none =>
      match factor.zeroLike with
      | some zero => setValue path place zero
      | none => .error (.operand .mul path.text .multiplier)
    | some current =>
      match Value.arithmetic .mul current factor with
      | some product => setValue path place product
      | none => .error (.mismatch .mul path (.notNumeric current.kind))

def bound (op : Operator) (wanted : Ordering) (path : Path) (place : Place) (operand : Value) :
    Planned :=
  forWrite path place fun
    | none => write path place operand
    | some (.array items) => .error (.mismatch op path (.notComparable (Value.array items).kind))
    | some (.document fields) =>
      .error (.mismatch op path (.notComparable (Value.document fields).kind))
    | some current => if operand.cmp current == wanted then write path place operand else keep

def rename (source : Path) (place : Place) (target : Path) : Planned :=
  forRead source place fun
    | none => keep
    | some value => .ok ⟨true, [⟨source, none⟩, ⟨target, none⟩, ⟨target, some value⟩]⟩

def bitFrom (path : Path) (place : Place) (steps : List (BitOp × Value)) (start : Value) :
    Planned :=
  match steps.foldlM Edit.bitStep? start with
  | some result => setValue path place result
  | none => .error (.operand .bit path.text .bitStep)

def bit (path : Path) (place : Place) (steps : List (BitOp × Value)) : Planned :=
  forWrite path place fun
    | none => bitFrom path place steps (Edit.bitStart steps)
    | some (.int32 n) => bitFrom path place steps (.int32 n)
    | some (.int64 n) => bitFrom path place steps (.int64 n)
    | some current => .error (.mismatch .bit path (.notIntegral current.kind))

def remove (path : Path) (place : Place) : Planned :=
  match place.value? with
  | some _ => .ok ⟨true, [⟨path, none⟩]⟩
  | none => keep

/-! ## Arrays -/

/-- Puts the edited items of an array that is there in their place. -/
def edited (path : Path) (items : List Value) (edit : ItemsEdit) : Planned :=
  match edit.result? items with
  | some result => .ok ⟨edit.changed items result, [⟨path, some (.array result)⟩]⟩
  | none => .unordered

/-- Puts an array of new items where nothing is. -/
def created (path : Path) (place : Place) (edit : ItemsEdit) : Planned :=
  match place.fault? with
  | some fault => .error (.unwritable path fault)
  | none =>
    match edit.result? [] with
    | some result => .ok ⟨true, [⟨path, some (.array result)⟩]⟩
    | none => .unordered

/-- Puts other items in an array that is created if it is missing. -/
def grow (op : Operator) (path : Path) (place : Place) (edit : ItemsEdit) : Planned :=
  forWrite path place fun
    | none => created path place edit
    | some (.array items) => edited path items edit
    | some found => .error (.mismatch op path (.notArray found.kind))

/-- Puts other items in an array that may be missing. -/
def shrink (op : Operator) (path : Path) (place : Place) (edit : ItemsEdit) : Planned :=
  forRead path place fun
    | none => keep
    | some (.array items) => edited path items edit
    | some found => .error (.mismatch op path (.notArray found.kind))

end Planned

/-- What a mutation is going to do at the place of its path. -/
def Mutation.plan (options : Options) (m : Mutation) (place : Place) : Planned :=
  match m.action with
  | .set value => Planned.setValue m.path place value
  | .unset => Planned.remove m.path place
  | .setOnInsert value =>
    if options.isInsert then Planned.setValue m.path place value else Planned.keep
  | .currentDate kind => Planned.setValue m.path place (Edit.dateValue kind options)
  | .inc amount => Planned.inc m.path place amount
  | .mul factor => Planned.mul m.path place factor
  | .min value => Planned.bound .min .lt m.path place value
  | .max value => Planned.bound .max .gt m.path place value
  | .rename target => Planned.rename m.path place target
  | .bit steps => Planned.bit m.path place steps
  | .addToSet values => Planned.grow .addToSet m.path place (.counted (Items.union · values))
  | .push p => Planned.grow .push m.path place (.push p)
  | .pop side => Planned.shrink .pop m.path place (.counted (Items.pop side))
  | .pull condition => Planned.shrink .pull m.path place (.counted (Items.pull condition))
  | .pullAll values => Planned.shrink .pullAll m.path place (.counted (Items.pullAll values))

/-! ## Fields of the document itself -/

namespace Fields

theorem fault?_of_top {p : Path} (h : p.tail = []) (doc : Fields) :
    (doc.place p).fault? = none := by
  rw [place_eq, h]
  cases doc.get? p.head.name <;> simp [Place.fault?]

theorem change_none_of_top {p : Path} (h : p.tail = []) {doc : Fields}
    (hp : (doc.place p).value? = none) : doc.change ⟨p, none⟩ = doc := by
  rw [place_eq, h] at hp
  cases hs : doc.get? p.head.name with
  | some v => simp [hs, Place.value?] at hp
  | none => simp [change, alter, h, Value.changeFrom, erase_of_get?_none hs]

end Fields

/-! ## Edits follow their plans -/

namespace Edit

variable {path : Path}

/-- An edit does what is planned for the place of a path. -/
def Follows (edit : Edit Bool) (path : Path) (plan : Place → Planned) : Prop :=
  ∀ doc : Fields, edit doc = (plan (doc.place path)).run doc

theorem follows_return_false : Follows (return false) path fun _ => Planned.keep := fun _ => rfl

theorem follows_fail (e : UpdateError) : Follows (fail e) path fun _ => .error e := fun _ => rfl

theorem follows_write (value : Value) :
    Follows (write path value) path fun place => Planned.write path place value := by
  intro doc
  simp only [write, Fields.write_eq, Planned.write]
  cases (doc.place path).fault? <;> rfl

theorem follows_remove : Follows (remove path) path fun place => Planned.remove path place := by
  intro doc
  simp only [remove, Fields.remove?_eq, Planned.remove]
  cases (doc.place path).value? <;> rfl

theorem readForWrite_bind {α : Type} (next : Option Value → Edit α) (doc : Fields) :
    (readForWrite path >>= next) doc = match doc.place path with
      | .blocked walk => .error (.unwritable path (.blocked walk)) doc
      | place => next place.value? doc := by
  simp only [bind, readForWrite, Fields.read_eq]
  cases doc.place path <;> rfl

theorem read_bind {α : Type} (next : Option Value → Edit α) (doc : Fields) :
    (read path >>= next) doc = match doc.place path with
      | .blocked walk => .error (.blockedPath path walk) doc
      | place => next place.value? doc := by
  simp only [bind, read, Fields.read_eq]
  cases doc.place path <;> rfl

/-- Reading on the way to writing goes on with what the place holds. -/
theorem follows_readForWrite {next : Option Value → Edit Bool}
    {plan : Place → Option Value → Planned}
    (h : ∀ found, Follows (next found) path fun place => plan place found) :
    Follows (readForWrite path >>= next) path fun place =>
      Planned.forWrite path place (plan place) := by
  intro doc
  have hnext := fun found => h found doc
  rw [readForWrite_bind]
  cases hp : doc.place path <;> simp only [hp] at hnext
  case blocked walk => rfl
  all_goals simp only [Planned.forWrite, hnext]

theorem follows_ite {b : Bool} {edit other : Edit Bool} {plan otherPlan : Place → Planned}
    (h : Follows edit path plan) (hother : Follows other path otherPlan) :
    Follows (if b then edit else other) path fun place =>
      if b then plan place else otherPlan place := by
  cases b
  · exact hother
  · exact h

/-! ### Single values -/

theorem follows_setValue (value : Value) :
    Follows (setValue path value) path fun place => Planned.setValue path place value := by
  refine follows_readForWrite fun found => ?_
  cases found with
  | none => exact follows_write value
  | some current => exact follows_ite follows_return_false (follows_write value)

theorem follows_inc (amount : Value) :
    Follows (inc path amount) path fun place => Planned.inc path place amount := by
  refine follows_readForWrite fun found => ?_
  cases found with
  | none => exact follows_setValue amount
  | some current =>
    cases h : Value.arithmetic .add current amount with
    | none =>
      simp only [h]
      exact follows_fail _
    | some sum => simpa only [h] using follows_setValue sum

theorem follows_mul (factor : Value) :
    Follows (mul path factor) path fun place => Planned.mul path place factor := by
  refine follows_readForWrite fun found => ?_
  cases found with
  | none =>
    cases h : factor.zeroLike with
    | none => simpa only [h] using follows_fail _
    | some zero => simpa only [h] using follows_setValue zero
  | some current =>
    cases h : Value.arithmetic .mul current factor with
    | none =>
      simp only [h]
      exact follows_fail _
    | some product => simpa only [h] using follows_setValue product

theorem follows_bound (op : Operator) (wanted : Ordering) (operand : Value) :
    Follows (bound op wanted path operand) path fun place =>
      Planned.bound op wanted path place operand := by
  refine follows_readForWrite fun found => ?_
  cases found with
  | none => exact follows_write operand
  | some current =>
    cases current
    case array => exact follows_fail _
    case document => exact follows_fail _
    all_goals exact follows_ite (follows_write operand) follows_return_false

theorem follows_bitFrom (steps : List (BitOp × Value)) (start : Value) :
    Follows (bitFrom path steps start) path fun place =>
      Planned.bitFrom path place steps start := by
  unfold bitFrom Planned.bitFrom
  cases steps.foldlM bitStep? start with
  | none => exact follows_fail _
  | some result => exact follows_setValue result

theorem follows_bit (steps : List (BitOp × Value)) :
    Follows (bit path steps) path fun place => Planned.bit path place steps := by
  refine follows_readForWrite fun found => ?_
  cases found with
  | none => exact follows_bitFrom steps _
  | some current =>
    cases current
    case int32 => exact follows_bitFrom steps _
    case int64 => exact follows_bitFrom steps _
    all_goals exact follows_fail _

theorem remove_of_top {target : Path} (htop : target.tail = []) (doc : Fields) :
    ∃ removed, remove target doc = .ok removed (doc.change ⟨target, none⟩) := by
  rw [follows_remove doc]
  cases hp : (doc.place target).value? with
  | some v => exact ⟨true, by simp only [Planned.remove, hp]; rfl⟩
  | none =>
    rw [Fields.change_none_of_top htop hp]
    exact ⟨false, by simp only [Planned.remove, hp]; rfl⟩

/-- A field of the document itself can always be removed and written. -/
theorem follows_rename {target : Path} (htop : target.tail = []) :
    Follows (rename path target) path fun place => Planned.rename path place target := by
  intro doc
  rw [rename, read_bind]
  cases hp : doc.place path with
  | found value =>
    have hsource : remove path doc = .ok true (doc.change ⟨path, none⟩) := by
      rw [follows_remove doc, hp]
      rfl
    obtain ⟨removed, htarget⟩ := remove_of_top htop (doc.change ⟨path, none⟩)
    have hwrite : write target value ((doc.change ⟨path, none⟩).change ⟨target, none⟩) = _ :=
      follows_write value _
    simp only [Planned.write, Fields.fault?_of_top htop] at hwrite
    simp only [Place.value?, bind_of_ok hsource, bind_of_ok htarget]
    exact hwrite
  | _ => rfl

/-! ### Arrays -/

theorem assign_of_found {doc : Fields} {v : Value} (h : doc.place path = .found v)
    (value : Value) : assign path value doc = .ok () (doc.change ⟨path, some value⟩) := by
  simp only [assign, Fields.replace_eq, h]
  rfl

theorem follows_ensureArray (op : Operator) :
    Follows (ensureArray op path) path fun place => Planned.forWrite path place fun
      | none => Planned.write path place (.array [])
      | some (.array _) => Planned.keep
      | some found => .error (.mismatch op path (.notArray found.kind)) := by
  refine follows_readForWrite fun found => ?_
  cases found with
  | none => exact follows_write _
  | some v =>
    cases v
    case array => exact follows_return_false
    all_goals exact follows_fail _

/-- Once it is made sure that there is an array, opening it cannot fail. -/
theorem openArray_of_ensured {doc mid : Fields} {op : Operator} {created : Bool}
    {items : List Value} (hensure : ensureArray op path doc = .ok created mid)
    (hmid : mid.place path = .found (.array items)) :
    openArray op path doc = .ok (items, created) mid := by
  rw [openArray, bind_of_ok hensure, readForWrite_bind, hmid]
  rfl

theorem openArray_of_error {doc : Fields} {op : Operator} {e : UpdateError}
    (hensure : ensureArray op path doc = .error e doc) : openArray op path doc = .error e doc :=
  bind_of_error hensure

/-- Puts the edited items in the array that was opened. -/
def refill (path : Path) (edit : ItemsEdit) (items : List Value) (created : Bool) : Edit Bool :=
  match edit.result? items with
  | none => stop
  | some result => do
    assign path (.array result)
    return created || edit.changed items result

theorem refill_of_found {doc : Fields} {items : List Value}
    (h : doc.place path = .found (.array items)) (edit : ItemsEdit) (created : Bool) :
    refill path edit items created doc = match edit.result? items with
      | none => .unordered
      | some result =>
        .ok (created || edit.changed items result) (doc.change ⟨path, some (.array result)⟩) := by
  unfold refill
  cases edit.result? items with
  | none => rfl
  | some result => exact bind_of_ok (assign_of_found h _)

/-- A missing array is created first and filled afterwards, which is one change. -/
theorem follows_grow (op : Operator) (edit : ItemsEdit) :
    Follows (openArray op path >>= fun (items, created) => refill path edit items created) path
      fun place => Planned.grow op path place edit := by
  intro doc
  have hensure : ensureArray op path doc = _ := follows_ensureArray op doc
  -- Where nothing is, the two writes have the same fault, and the second undoes the first.
  have absent : ensureArray op path doc =
        (Planned.write path (doc.place path) (.array [])).run doc →
      (openArray op path >>= fun (items, created) => refill path edit items created) doc =
        (Planned.created path (doc.place path) edit).run doc := by
    intro h
    cases hf : (doc.place path).fault? with
    | some fault =>
      have herr : ensureArray op path doc = .error (.unwritable path fault) doc := by
        rw [h, Planned.write, hf]
        rfl
      rw [bind_of_error (openArray_of_error herr), Planned.created, hf]
      rfl
    | none =>
      have hmid := Fields.place_change_self hf (.array [])
      have hok : ensureArray op path doc = .ok true (doc.change ⟨path, some (.array [])⟩) := by
        rw [h, Planned.write, hf]
        rfl
      have hrefill := refill_of_found hmid edit true
      rw [bind_of_ok (openArray_of_ensured hok hmid)]
      refine hrefill.trans ?_
      simp only [Planned.created, hf]
      cases edit.result? [] with
      | none => rfl
      | some result =>
        simp only [Fields.change_change, Bool.true_or]
        rfl
  cases hp : doc.place path
  case found v =>
    cases v
    case array items =>
      have hok : ensureArray op path doc = .ok false doc := by
        rw [hensure, hp]
        rfl
      rw [bind_of_ok (openArray_of_ensured hok hp)]
      refine (refill_of_found hp edit false).trans ?_
      simp only [Planned.grow, Planned.forWrite, Place.value?, Planned.edited]
      cases edit.result? items with
      | none => rfl
      | some result => rfl
    all_goals
      rw [hp] at hensure
      rw [bind_of_error (openArray_of_error hensure)]
      rfl
  case blocked walk =>
    rw [hp] at hensure
    rw [bind_of_error (openArray_of_error hensure)]
    rfl
  all_goals
    rw [hp] at hensure absent
    exact absent hensure

theorem follows_addToSet (values : List Value) :
    Follows (addToSet path values) path fun place =>
      Planned.grow .addToSet path place (.counted (Items.union · values)) :=
  follows_grow .addToSet (.counted (Items.union · values))

theorem follows_push (p : Push) :
    Follows (push path p) path fun place =>
      Planned.grow .push path place (.push p) :=
  follows_grow .push (.push p)

/-- What is taken out of an array leaves it where it is. -/
theorem follows_shrink (op : Operator) (f : List Value → List Value) :
    Follows (shrink op path f) path fun place => Planned.shrink op path place (.counted f) := by
  intro doc
  have hopen : existingArray op path doc = _ := read_bind _ doc
  rw [shrink]
  cases hp : doc.place path
  case found v =>
    rw [hp] at hopen
    cases v
    case array items =>
      have hok : existingArray op path doc = .ok (some items) doc := hopen
      rw [bind_of_ok hok]
      exact bind_of_ok (assign_of_found hp _)
    all_goals
      rw [bind_of_error hopen]
      rfl
  case blocked walk =>
    rw [hp] at hopen
    rw [bind_of_error hopen]
    rfl
  all_goals
    rw [hp] at hopen
    rw [bind_of_ok hopen]
    rfl

end Edit

/-- Every mutation does what is planned for the place of its path. -/
theorem Mutation.apply_eq {options : Options} {m : Mutation} (h : m.RenamesTop) (doc : Fields) :
    m.apply options doc = (m.plan options (doc.place m.path)).run doc := by
  unfold Mutation.apply Mutation.plan
  cases ha : m.action with
  | set value => exact Edit.follows_setValue value doc
  | unset => exact Edit.follows_remove doc
  | setOnInsert value =>
    exact Edit.follows_ite (Edit.follows_setValue value) Edit.follows_return_false doc
  | currentDate kind => exact Edit.follows_setValue _ doc
  | inc amount => exact Edit.follows_inc amount doc
  | mul factor => exact Edit.follows_mul factor doc
  | min value => exact Edit.follows_bound .min .lt value doc
  | max value => exact Edit.follows_bound .max .gt value doc
  | rename target => exact Edit.follows_rename (h target ha).2.1 doc
  | bit steps => exact Edit.follows_bit steps doc
  | addToSet values => exact Edit.follows_addToSet values doc
  | push p => exact Edit.follows_push p doc
  | pop side => exact Edit.follows_shrink .pop _ doc
  | pull condition => exact Edit.follows_shrink .pull _ doc
  | pullAll values => exact Edit.follows_shrink .pullAll _ doc

end DocUpdate
