import DocUpdate.Error
import DocUpdate.Update.Basic

/-!
# Edits of a document

An edit changes a document step by step and may stop with an error. What it did before the
error stays done, so an edit that fails halfway would show. Sorting may stop an edit without
any answer, and then there is no document either.
-/

namespace DocUpdate

/-- How an edit ends: with an answer, with an error, or in the middle of sorting items that are
not ordered. -/
inductive Edit.Result (α : Type) where
  | ok (answer : α) (doc : Fields)
  | error (error : UpdateError) (doc : Fields)
  | unordered

/-- A change of the document at hand that answers something or fails. -/
def Edit (α : Type) : Type := Fields → Edit.Result α

instance : Monad Edit where
  pure answer := fun doc => .ok answer doc
  bind edit next := fun doc =>
    match edit doc with
    | .ok answer changed => next answer changed
    | .error error left => .error error left
    | .unordered => .unordered

namespace Edit

/-- Reads a value that has to be reachable. -/
def read (path : Path) : Edit (Option Value) := fun doc =>
  match doc.read path with
  | .ok found => .ok found doc
  | .error walk => .error (.blockedPath path walk) doc

/-- Reads a value on the way to writing it. -/
def readForWrite (path : Path) : Edit (Option Value) := fun doc =>
  match doc.read path with
  | .ok found => .ok found doc
  | .error walk => .error (.unwritable path (.blocked walk)) doc

/-- Writes a value and tells that the document changed. What was created before a fault
stays. -/
def write (path : Path) (value : Value) : Edit Bool := fun doc =>
  match doc.write path value with
  | (.ok (), changed) => .ok true changed
  | (.error fault, left) => .error (.unwritable path fault) left

/-- Replaces a value that is there. -/
def assign (path : Path) (value : Value) : Edit Unit := fun doc =>
  match doc.replace path value with
  | .ok (some changed) => .ok () changed
  | _ => .ok () doc

/-- Removes a value and tells whether there was one. -/
def remove (path : Path) : Edit Bool := fun doc =>
  match doc.remove? path with
  | some changed => .ok true changed
  | none => .ok false doc

/-- Fails with the document as it is. -/
def fail {α : Type} (error : UpdateError) : Edit α := fun doc => .error error doc

/-- Stops for good, without a document. -/
def stop {α : Type} : Edit α := fun _ => .unordered

/-- Refuses the value that was found. -/
def mismatch {α : Type} (op : Operator) (path : Path) (fault : Mismatch) : Edit α :=
  fail (.mismatch op path fault)

/-! ## What a run gives -/

variable {α β : Type} {edit : Edit α} {next : α → Edit β} {doc mid left after : Fields} {a b : α}

@[simp] theorem pure_run (a : α) (doc : Fields) : (pure a : Edit α) doc = .ok a doc := rfl

theorem bind_of_ok (h : edit doc = .ok a mid) : (edit >>= next) doc = next a mid := by
  simp only [bind, h]

theorem bind_of_error {e : UpdateError} (h : edit doc = .error e left) :
    (edit >>= next) doc = .error e left := by
  simp only [bind, h]

theorem bind_of_unordered (h : edit doc = .unordered) : (edit >>= next) doc = .unordered := by
  simp only [bind, h]

theorem bind_eq_ok {b : β} : (edit >>= next) doc = .ok b after ↔
    ∃ a mid, edit doc = .ok a mid ∧ next a mid = .ok b after := by
  cases h : edit doc with
  | ok a mid =>
    rw [bind_of_ok h]
    exact ⟨fun hb => ⟨a, mid, rfl, hb⟩, by rintro ⟨_, _, ⟨⟩, hb⟩; exact hb⟩
  | error e left => simp [bind_of_error h]
  | unordered => simp [bind_of_unordered h]

theorem bind_eq_error {e : UpdateError} : (edit >>= next) doc = .error e after ↔
    edit doc = .error e after ∨ ∃ a mid, edit doc = .ok a mid ∧ next a mid = .error e after := by
  cases h : edit doc with
  | ok a mid =>
    rw [bind_of_ok h]
    exact ⟨fun he => .inr ⟨a, mid, rfl, he⟩, by rintro (⟨⟨⟩⟩ | ⟨_, _, ⟨⟩, he⟩); exact he⟩
  | error e left => simp [bind_of_error h]
  | unordered => simp [bind_of_unordered h]

theorem pure_eq_ok : (pure a : Edit α) doc = .ok b after ↔ a = b ∧ doc = after := by simp

end Edit

end DocUpdate
