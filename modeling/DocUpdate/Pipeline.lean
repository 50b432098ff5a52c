import DocUpdate.Update.Apply
import DocUpdate.Update.Reader
import DocUpdate.Validity

/-!
# Lists of updates

A list of update documents is applied to a copy of a document, which has to be valid after
each of them. Either all of them take effect or none does. They are read up front in a
pipeline, and one at a time by `applyUpdates`.
-/

namespace DocUpdate

/-- Why there is no document after an update: it failed, or it stopped while sorting items that
are not ordered. -/
inductive Halt where
  | failed (error : UpdateError)
  | unordered

/-- A document after an update, and whether anything changed. -/
structure Updated where
  document : Fields
  modified : Bool

/-- Applies one update document to a copy. -/
def UpdateSpec.applyTo (options : Options) (spec : UpdateSpec) (doc : Fields) :
    Except Halt Updated :=
  match spec.apply options doc with
  | .ok modified doc => do
    (validate doc).mapError .failed
    return ⟨doc, modified⟩
  | .error fault _ => .error (.failed fault)
  | .unordered => .error .unordered

/-- A list of update documents that have been read. -/
structure Pipeline where
  specs : List UpdateSpec

namespace Pipeline

def parse (updates : List Fields) : Except UpdateError Pipeline :=
  if updates.isEmpty then .error .emptySpecList
  else (updates.mapM UpdateSpec.parse).map .mk

/-- Applies update documents one after another. -/
def run (options : Options) (doc : Fields) : List UpdateSpec → Except Halt Updated
  | [] => .ok ⟨doc, false⟩
  | spec :: rest => do
    let first ← spec.applyTo options doc
    let last ← run options first.document rest
    return ⟨last.document, first.modified || last.modified⟩

def apply (options : Options) (p : Pipeline) (doc : Fields) : Except Halt Updated :=
  run options doc p.specs

end Pipeline

/-- Reads and applies update documents one after another. -/
def applyEach (options : Options) (doc : Fields) : List Fields → Except Halt Fields
  | [] => .ok doc
  | update :: rest => do
    let spec ← (UpdateSpec.parse update).mapError .failed
    let updated ← spec.applyTo options doc
    applyEach options updated.document rest

/-- Applies a list of update documents, each read when its turn comes. -/
def applyUpdates (options : Options) (doc : Fields) (updates : List Fields) :
    Except Halt Fields :=
  if updates.isEmpty then .error (.failed .emptySpecList) else applyEach options doc updates

end DocUpdate
