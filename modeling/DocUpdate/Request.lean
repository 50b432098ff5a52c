import DocUpdate.Pipeline
import DocUpdate.Text.Extended
import DocUpdate.Text.Json.Printer
import DocUpdate.Text.Json.Reader

/-!
# Requests

A request is a JSON text with a document and a list of updates. The answer is the updated
document as JSON.
-/

namespace DocUpdate

/-- What a request asks for. -/
structure Request where
  document : Fields
  updates : List Fields
  isInsert : Bool

/-- Why a request has no document for an answer. -/
inductive RequestFault where
  | malformed
  | update (halt : Halt)

def RequestFault.message : RequestFault → String
  | malformed => "failed to parse request"
  | update (.failed error) => "update failed (" ++ error.kind.name ++ "): " ++ error.message
  | update .unordered =>
    "user-provided comparison function does not correctly implement a total order"

namespace Request

/-- The member of a name, which may not be repeated. -/
def member? (members : List (String × Json)) (name : String) : Option (Option Json) :=
  match members.filter (·.1 == name) with
  | [] => some none
  | [(_, v)] => some (some v)
  | _ => none

def updates? : Json → Option (List Fields)
  | .array items => items.mapM Extended.document?
  | _ => none

def flag? : Option Json → Option Bool
  | none => some false
  | some (.bool b) => some b
  | some _ => none

/-- How deep the parts of a request may be nested. With the request around them that makes 127
levels. -/
def maxDepth : Nat := 126

def ofParts? (document updates : Json) (isInsert : Option Json) : Option Request := do
  if maxDepth < document.depth ∨ maxDepth < updates.depth then none
  let document ← Extended.document? document
  let updates ← updates? updates
  let isInsert ← flag? isInsert
  some ⟨document, updates, isInsert⟩

/-- Members are found by name and others are ignored, though their strings have to be escaped
properly. A list holds members by position. -/
def ofJson? : Json → Option Request
  | .object members => do
    let document ← member? members "document"
    let updates ← member? members "updates"
    let isInsert ← member? members "is_insert"
    let known := ["document", "updates", "is_insert"]
    if members.any fun (name, v) => !known.contains name && v.hasBare then none
    else ofParts? (← document) (← updates) isInsert
  | .array [document, updates] => ofParts? document updates none
  | .array [document, updates, isInsert] => ofParts? document updates (some isInsert)
  | _ => none

def parse? (text : String) : Option Request := (Json.read? text).bind ofJson?

/-- The updated document of a request. -/
def run (now : Int64) (text : String) : Except RequestFault Fields :=
  match parse? text with
  | none => .error .malformed
  | some request =>
    (applyUpdates ⟨request.isInsert, now⟩ request.document request.updates).mapError .update

def render (doc : Fields) : String := Json.pretty 0 (.object (Extended.ofFields doc))

/-- The text of the updated document. -/
def answer (now : Int64) (text : String) : Except RequestFault String :=
  (run now text).map render

end Request

end DocUpdate
