import DocUpdate.Condition.Reader
import DocUpdate.Error
import DocUpdate.Update.Basic
import DocUpdate.Value.Arithmetic

/-!
# Reading update documents

Keys are checked first, then every entry in document order, and conflicts between the
entries last. Two entries conflict when their paths share a place.
-/

namespace DocUpdate

namespace Action

/-- Refuses an operand. -/
def refuse {α : Type} (op : Operator) (path : Path) (fault : OperandFault) :
    Except UpdateError α :=
  .error (.operand op path.text fault)

/-! ## Numbers and dates -/

def readNumber (op : Operator) (path : Path) (operand : Value) : Except UpdateError Value :=
  if operand.isNumeric then .ok operand else refuse op path (.notNumber operand.kind)

private def isNaNDouble : Value → Bool
  | .double x => x.isNaN
  | _ => false

/-- A positive number removes the last item, a negative one the first. -/
def readPop (path : Path) (operand : Value) : Except UpdateError End :=
  if operand.isNumeric && !isNaNDouble operand then
    match operand.cmp (.int32 0) with
    | .gt => .ok .last
    | .lt => .ok .first
    | .eq => refuse .pop path (.popOperand operand)
  else refuse .pop path (.popOperand operand)

def readDateKind (path : Path) (operand : Value) : Except UpdateError DateKind :=
  match operand with
  | .bool _ => .ok .date
  | .document [field] =>
    match Fields.get? [field] "$type" with
    | some (.string "date") => .ok .date
    | some (.string "timestamp") => .ok .timestamp
    | _ => refuse .currentDate path .dateType
  | _ => refuse .currentDate path (.dateOperand operand.kind)

/-! ## Renaming -/

/-- Fields of the document itself are renamed only, and not to themselves. -/
def readRename (source : Path) (operand : Value) : Except UpdateError Path :=
  match operand with
  | .string text => do
    let target ← Path.ofText text
    if !source.tail.isEmpty || !target.tail.isEmpty then .error (.nestedRename source target)
    else if source.overlaps target then .error (.conflict target source)
    else return target
  | _ => refuse .rename source (.renameTarget operand.kind)

/-! ## Bits -/

def bitOp? (name : String) : Option BitOp :=
  match name with
  | "and" => some .and
  | "or" => some .or
  | "xor" => some .xor
  | _ => none

def readBitStep (path : Path) (field : String × Value) : Except UpdateError (BitOp × Value) :=
  match bitOp? field.1 with
  | none => refuse .bit path (.bitOperation field.1)
  | some op =>
    match field.2 with
    | .int32 _ | .int64 _ => .ok (op, field.2)
    | v => refuse .bit path (.bitNotInteger field.1 v.kind)

def readBit (path : Path) (operand : Value) : Except UpdateError (List (BitOp × Value)) :=
  match operand with
  | .document (field :: rest) => (field :: rest).mapM (readBitStep path)
  | _ => refuse .bit path .bitOperand

/-! ## Arrays -/

def readEach (op : Operator) (path : Path) (value : Value) : Except UpdateError (List Value) :=
  match value with
  | .array items => .ok items
  | _ => refuse op path (.eachNotArray value.kind)

def readAddToSet (path : Path) (operand : Value) : Except UpdateError (List Value) :=
  match operand with
  | .document fields =>
    match Fields.get? fields "$each" with
    | none => .ok [operand]
    | some each =>
      if fields.length = 1 then readEach .addToSet path each
      else refuse .addToSet path .eachNotAlone
  | _ => .ok [operand]

def readInteger (path : Path) (modifier : String) (value : Value) : Except UpdateError Int :=
  match value.asInteger with
  | some n => .ok n
  | none => refuse .push path (.pushInteger modifier value.kind)

def direction? (value : Value) : Option Direction :=
  match value.asInteger with
  | some n => if n = 1 then some .ascending else if n = -1 then some .descending else none
  | none => none

def readSortKey (path : Path) (field : String × Value) : Except UpdateError SortKey := do
  let key ← Path.ofText field.1
  match direction? field.2 with
  | some direction => return ⟨key, direction⟩
  | none => refuse .push path .pushSort

def readSort (path : Path) (value : Value) : Except UpdateError Sorting :=
  match direction? value with
  | some direction => .ok (.whole direction)
  | none =>
    match value with
    | .document (field :: rest) => ((field :: rest).mapM (readSortKey path)).map .byFields
    | _ => refuse .push path .pushSort

/-- Takes in one modifier. -/
def readModifier (path : Path) (items : Push) (field : String × Value) :
    Except UpdateError Push :=
  match field.1 with
  | "$each" => (readEach .push path field.2).map fun each => { items with each := each }
  | "$position" =>
    (readInteger path field.1 field.2).map fun n => { items with position := some n }
  | "$slice" => (readInteger path field.1 field.2).map fun n => { items with slice := some n }
  | "$sort" => (readSort path field.2).map fun sort => { items with sort := some sort }
  | name => refuse .push path (.pushModifier name)

/-- A document that lists its items may have modifiers. Anything else is one item. -/
def readPush (path : Path) (operand : Value) : Except UpdateError Push :=
  match operand with
  | .document fields =>
    if Fields.contains fields "$each" then
      fields.foldlM (readModifier path) ⟨[], none, none, none⟩
    else .ok ⟨[operand], none, none, none⟩
  | _ => .ok ⟨[operand], none, none, none⟩

def readPullAll (path : Path) (operand : Value) : Except UpdateError (List Value) :=
  match operand with
  | .array items => .ok items
  | _ => refuse .pullAll path (.pullAllNotArray operand.kind)

/-! ## Any operator -/

/-- Reads the operand of an operator. -/
def read (op : Operator) (path : Path) (operand : Value) : Except UpdateError Action :=
  match op with
  | .set => .ok (.set operand)
  | .unset => .ok .unset
  | .setOnInsert => .ok (.setOnInsert operand)
  | .currentDate => (readDateKind path operand).map .currentDate
  | .inc => (readNumber .inc path operand).map .inc
  | .mul => (readNumber .mul path operand).map .mul
  | .min => .ok (.min operand)
  | .max => .ok (.max operand)
  | .rename => (readRename path operand).map .rename
  | .bit => (readBit path operand).map .bit
  | .addToSet => (readAddToSet path operand).map .addToSet
  | .push => (readPush path operand).map .push
  | .pop => (readPop path operand).map .pop
  | .pull =>
    ((Condition.parse operand).mapError fun fault =>
      .operand .pull path.text (.condition fault)).map .pull
  | .pullAll => (readPullAll path operand).map .pullAll

end Action

namespace UpdateSpec

/-- Reads one entry of a modifier. -/
def readEntry (op : Operator) (field : String × Value) : Except UpdateError Mutation := do
  let path ← Path.ofText field.1
  let action ← Action.read op path field.2
  return ⟨path, action⟩

/-- Reads one operator with its modifier. -/
def readModifier (field : String × Value) : Except UpdateError (List Mutation) :=
  match Operator.ofName? field.1 with
  | none => .error (.unknownOperator field.1)
  | some op =>
    match field.2 with
    | .document fields => fields.mapM (readEntry op)
    | v => .error (.operand op field.1 (.modifierNotDocument v.kind))

/-- The first of some paths that meets a claimed one, with that one. -/
def firstConflict (claimed : List Path) : List Path → Option (Path × Path)
  | [] => none
  | path :: rest =>
    match claimed.find? (·.overlaps path) with
    | some earlier => some (path, earlier)
    | none => firstConflict claimed rest

/-- Refuses mutations that claim a place twice. The paths of one mutation are not held
against each other. -/
def checkConflicts (claimed : List Path) : List Mutation → Except UpdateError Unit
  | [] => .ok ()
  | m :: rest =>
    match firstConflict claimed m.claims with
    | some (path, earlier) => .error (.conflict path earlier)
    | none => checkConflicts (claimed ++ m.claims) rest

/-- Reads an update document. -/
def parse (spec : Fields) : Except UpdateError UpdateSpec :=
  match spec.keys.find? fun key => (Operator.ofName? key).isNone with
  | some key => .error (.unknownOperator key)
  | none =>
    if spec.isEmpty then .error .emptySpec
    else do
      let groups ← spec.mapM readModifier
      let mutations := groups.flatten
      checkConflicts [] mutations
      return ⟨mutations⟩

end UpdateSpec

end DocUpdate
