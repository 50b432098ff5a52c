import DocUpdate.Error

/-!
# Documents that can be stored

At every depth a field has a name, and only the fields of a reference to another document
start with a dollar sign.
-/

namespace DocUpdate

/-- The fields of a reference to another document. -/
def referenceNames : List String := ["$ref", "$id", "$db"]

/-- Why a field cannot have a name, if it cannot. -/
def nameFault? (name : String) : Option NameFault :=
  if name = "" then some .empty
  else if name.toList.head? = some '$' ∧ name ∉ referenceNames then some (.dollar name)
  else none

namespace Value

mutual

/-- The first bad name inside a value, if there is one. -/
def nameFault? : Value → Option NameFault
  | document fields => nameFaultIn? fields
  | array items => nameFaultAmong? items
  | _ => none

/-- A name is looked at before the value it stands for. -/
def nameFaultIn? : List (String × Value) → Option NameFault
  | [] => none
  | (name, value) :: rest =>
    match DocUpdate.nameFault? name with
    | some fault => some fault
    | none =>
      match nameFault? value with
      | some fault => some fault
      | none => nameFaultIn? rest

def nameFaultAmong? : List Value → Option NameFault
  | [] => none
  | item :: rest =>
    match nameFault? item with
    | some fault => some fault
    | none => nameFaultAmong? rest

end

end Value

/-- Refuses a document with a bad name in it. -/
def validate (doc : Fields) : Except UpdateError Unit :=
  match Value.nameFaultIn? doc with
  | some fault => .error (.invalidDocument fault)
  | none => .ok ()

end DocUpdate
