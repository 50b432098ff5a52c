import DocUpdate.Condition.Basic
import DocUpdate.Operator
import DocUpdate.Path.Write
import DocUpdate.Value.Display

/-!
# Errors

Every error is a cause with the operator and the path it concerns. The wording is here and
nowhere else.
-/

namespace DocUpdate

private def inQuotes (text : String) : String := "'" ++ text ++ "'"

/-! ## Paths -/

/-- Why a text is not a path, with the text. -/
def PathFault.message (text : String) : PathFault → String
  | emptyPath => "invalid path " ++ inQuotes text ++ ": empty field path"
  | emptyName => "invalid path " ++ inQuotes text ++ ": field path contains an empty field name"
  | dollarName segment =>
    "invalid path " ++ inQuotes text ++ ": dollar-prefixed field name " ++ inQuotes segment
      ++ " is not valid"
  | positional segment =>
    "unsupported path " ++ inQuotes text ++ ": segment " ++ inQuotes segment
      ++ " is not supported"

def Blocked.reason (b : Blocked) : String :=
  "cannot use the part " ++ inQuotes b.part ++ " to traverse the element " ++ inQuotes b.element
    ++ " of type " ++ b.found.name

def WriteFault.reason : WriteFault → String
  | blocked walk => walk.reason
  | fieldInScalar part element found =>
    "cannot create field " ++ inQuotes part ++ " in element " ++ inQuotes element ++ " of type "
      ++ found.name
  | fieldInArray part element =>
    "cannot create field " ++ inQuotes part ++ " in array " ++ inQuotes element
  | padding => "cannot pad array by more than " ++ Nat.repr maxPadding ++ " elements"
  | arrayNotCreated => "array could not be created"

/-! ## Conditions -/

def PatternFault.reason : PatternFault → String
  | unknownOption letter => "unknown regex option: " ++ letter.toString
  | invalid => "invalid regex pattern"

def ConditionFault.reason : ConditionFault → String
  | unknownQueryOperator name => "unknown top-level operator: " ++ name
  | unknownPredicate name => "unknown field operator: " ++ name
  | path text fault => fault.message text
  | clausesNotArray => "$and/$or value must be an array"
  | clauseNotDocument => "$and/$or array elements must be non-empty documents"
  | noClauses => "$and/$or array must not be empty"
  | presentNotBool => "$exists value must be a boolean"
  | optionsAlone => "$options without $regex"
  | optionsNotString => "$options value must be a string"
  | patternNotString => "$regex value must be a string"
  | negationOperand => "$not needs a regex or a document of operators"
  | noPredicates => "empty operator document"
  | listNotArray name => name ++ " needs an array"
  | pattern fault => fault.reason

/-- The text of a fault when a condition is read on its own. -/
def ConditionFault.message (fault : ConditionFault) : String :=
  "condition parse error: " ++ fault.reason

/-! ## Operators -/

/-- Why the value at a path does not suit an operator. -/
inductive Mismatch where
  | notArray (found : Kind)
  | notNumeric (found : Kind)
  | notComparable (found : Kind)
  | notIntegral (found : Kind)
deriving DecidableEq

def Mismatch.reason : Mismatch → String
  | notArray found => "field must be an array but is of type " ++ found.name
  | notNumeric found => "cannot apply to a value of non-numeric type " ++ found.name
  | notComparable found => "cannot compare with a value of type " ++ found.name
  | notIntegral found => "cannot apply to a value of non-integral type " ++ found.name

/-- Why an operand does not suit its operator. -/
inductive OperandFault where
  | modifierNotDocument (found : Kind)
  | notNumber (found : Kind)
  | popOperand (operand : Value)
  | dateType
  | dateOperand (found : Kind)
  | renameTarget (found : Kind)
  | bitOperand
  | bitOperation (name : String)
  | bitNotInteger (name : String) (found : Kind)
  | bitStep
  | eachNotArray (found : Kind)
  | eachNotAlone
  | pushModifier (name : String)
  | pushInteger (modifier : String) (found : Kind)
  | pushSort
  | pullAllNotArray (found : Kind)
  | condition (fault : ConditionFault)
  | multiplier

def OperandFault.reason : OperandFault → String
  | modifierNotDocument found => "modifier must be a document, found " ++ found.name
  | notNumber found => "cannot apply with a non-numeric argument of type " ++ found.name
  | popOperand operand => "expected a non-zero number but found " ++ operand.display
  | dateType => "$type must be \"date\" or \"timestamp\""
  | dateOperand found => "expected a boolean or a $type document but found " ++ found.name
  | renameTarget found => "target must be a string but found " ++ found.name
  | bitOperand => "expected a non-empty document of and/or/xor"
  | bitOperation name => "unknown bitwise operation " ++ inQuotes name
  | bitNotInteger name found =>
    inQuotes name ++ " needs a 32 or 64 bit integer, found " ++ found.name
  | bitStep => "bitwise operands must be 32 or 64 bit integers"
  | eachNotArray found => "$each must be an array but found " ++ found.name
  | eachNotAlone => "$each cannot be combined with other fields"
  | pushModifier name => "unrecognized modifier " ++ inQuotes name
  | pushInteger modifier found => modifier ++ " must be an integer but found " ++ found.name
  | pushSort => "$sort must be 1, -1 or a non-empty document of fields to 1 or -1"
  | pullAllNotArray found => "expected an array but found " ++ found.name
  | condition fault => fault.reason
  | multiplier => "multiplier must be a number"

/-! ## Documents -/

/-- Why the name of a field cannot be stored. -/
inductive NameFault where
  | empty
  | dollar (name : String)
deriving DecidableEq

def NameFault.reason : NameFault → String
  | empty => "field names must not be empty"
  | dollar name => "field name " ++ inQuotes name ++ " must not start with '$'"

/-! ## Updates -/

/-- The kind of an error, without its particulars. -/
inductive ErrorKind where
  | unknownOperator | emptySpec | emptySpecList | conflictingOperators | invalidPath
  | unsupportedPath | pathConflict | typeMismatch | unsupportedRename | invalidOperand
  | invalidDocument
deriving DecidableEq

def ErrorKind.name : ErrorKind → String
  | unknownOperator => "UnknownOperator"
  | emptySpec => "EmptySpec"
  | emptySpecList => "EmptySpecList"
  | conflictingOperators => "ConflictingOperators"
  | invalidPath => "InvalidPath"
  | unsupportedPath => "UnsupportedPath"
  | pathConflict => "PathConflict"
  | typeMismatch => "TypeMismatch"
  | unsupportedRename => "UnsupportedRename"
  | invalidOperand => "InvalidOperand"
  | invalidDocument => "InvalidDocument"

/-- Why an update is refused or fails. -/
inductive UpdateError where
  | unknownOperator (name : String)
  | emptySpec
  | emptySpecList
  /-- A path that meets one claimed before it. -/
  | conflict (path earlier : Path)
  | malformedPath (text : String) (fault : PathFault)
  /-- A walk to a value that has to be there already. -/
  | blockedPath (path : Path) (walk : Blocked)
  | unwritable (path : Path) (fault : WriteFault)
  | mismatch (operator : Operator) (path : Path) (fault : Mismatch)
  | nestedRename (source target : Path)
  | operand (operator : Operator) (place : String) (fault : OperandFault)
  | invalidDocument (fault : NameFault)

namespace UpdateError

def kind : UpdateError → ErrorKind
  | unknownOperator _ => .unknownOperator
  | emptySpec => .emptySpec
  | emptySpecList => .emptySpecList
  | conflict _ _ => .conflictingOperators
  | malformedPath _ (.positional _) => .unsupportedPath
  | malformedPath _ _ => .invalidPath
  | blockedPath _ _ => .invalidPath
  | unwritable _ _ => .pathConflict
  | mismatch _ _ _ => .typeMismatch
  | nestedRename _ _ => .unsupportedRename
  | operand _ _ _ => .invalidOperand
  | invalidDocument _ => .invalidDocument

private def onPath (operator : Operator) (place reason : String) : String :=
  operator.name ++ " on " ++ inQuotes place ++ ": " ++ reason

def message : UpdateError → String
  | unknownOperator name => "unknown update operator: " ++ name
  | emptySpec => "update document must have at least one element"
  | emptySpecList => "update list must contain at least one update document"
  | conflict path earlier =>
    "updating the path " ++ inQuotes path.text ++ " would create a conflict at "
      ++ inQuotes earlier.text
  | malformedPath text fault => fault.message text
  | blockedPath path walk => "invalid path " ++ inQuotes path.text ++ ": " ++ walk.reason
  | unwritable path fault => "cannot write " ++ inQuotes path.text ++ ": " ++ fault.reason
  | mismatch operator path fault => onPath operator path.text fault.reason
  | nestedRename source target =>
    "$rename from " ++ inQuotes source.text ++ " to " ++ inQuotes target.text
      ++ " is not supported: nested renames are rejected"
  | operand operator place fault => onPath operator place fault.reason
  | invalidDocument fault => "invalid document: " ++ fault.reason

end UpdateError

/-- Reads a path, with the text in the error. -/
def Path.ofText (text : String) : Except UpdateError Path :=
  (Path.parse text).mapError (.malformedPath text)

end DocUpdate
