import DocUpdate.Condition.Basic

/-!
# Reading conditions

A document of operators is a list of predicates on the item itself, any other document is a
query on the fields of the item, and every other value asks for equality.
-/

namespace DocUpdate

/-- The names that make a document a list of predicates. -/
def predicateNames : List String :=
  ["$eq", "$ne", "$gt", "$gte", "$lt", "$lte", "$in", "$nin", "$regex", "$options", "$exists",
    "$not"]

def startsWithDollar (name : String) : Bool := name.toList.head? == some '$'

/-- The fields of a condition are operators if the first of them is. -/
def hasOperators (fields : Fields) : Bool := fields.head?.any fun field => startsWithDollar field.1

namespace Pattern

/-- Reads a pattern inside a condition. -/
def ofCondition (pattern options : String) : Except ConditionFault Pattern :=
  (compile pattern options).mapError .pattern

end Pattern

namespace Predicate

/-- The items of a list operand. -/
def listOperand (name : String) : Value → Except ConditionFault (List Value)
  | .array items => .ok items
  | _ => .error (.listNotArray name)

/-- The options that stand beside a pattern. -/
def optionsOf (fields : Fields) : Except ConditionFault (Option String) :=
  match fields.get? "$options" with
  | none => .ok none
  | some (.string options) => .ok (some options)
  | some _ => .error .optionsNotString

/-- Reads a pattern with the options beside it, which win over its own. -/
def readPattern (fields : Fields) : Except ConditionFault Predicate := do
  let options ← optionsOf fields
  match fields.get? "$regex" with
  | some (.string text) => return pattern (← Pattern.ofCondition text (options.getD ""))
  | some (.regex text own) => return pattern (← Pattern.ofCondition text (options.getD own))
  | _ => .error .patternNotString

/-- Reads an operator that holds no other operators. Options alone are no predicate. -/
def readSimple (fields : Fields) (name : String) (value : Value) :
    Except ConditionFault (Option Predicate) :=
  match name with
  | "$eq" => .ok (some (eq value))
  | "$ne" => .ok (some (ne value))
  | "$gt" => .ok (some (gt value))
  | "$gte" => .ok (some (gte value))
  | "$lt" => .ok (some (lt value))
  | "$lte" => .ok (some (lte value))
  | "$in" => (listOperand name value).map fun values => some (oneOf values)
  | "$nin" => (listOperand name value).map fun values => some (noneOf values)
  | "$exists" =>
    match value with
    | .bool b => .ok (some (present b))
    | _ => .error .presentNotBool
  | "$regex" => (readPattern fields).map some
  | "$options" => if Fields.contains fields "$regex" then .ok none else .error .optionsAlone
  | _ => .error (.unknownPredicate name)

mutual

/-- Reads the entries of an operator document, in the company of all its fields. -/
def readEntries (fields : Fields) :
    List (String × Value) → Except ConditionFault (List Predicate)
  | [] => .ok []
  | (name, value) :: rest => do
    let predicate ←
      if name = "$not" then (readNegation value).map fun inner => some (negation inner)
      else readSimple fields name value
    let predicates ← readEntries fields rest
    return predicate.toList ++ predicates

/-- Reads what is negated: a pattern, or operators. -/
def readNegation : Value → Except ConditionFault (List Predicate)
  | .document (first :: rest) => do
    let predicates ← readEntries (first :: rest) (first :: rest)
    if predicates.isEmpty then .error .noPredicates else return predicates
  | .regex text options => return [pattern (← Pattern.ofCondition text options)]
  | _ => .error .negationOperand

end

/-- Reads a document of operators. -/
def readAll (fields : Fields) : Except ConditionFault (List Predicate) := do
  let predicates ← readEntries fields fields
  if predicates.isEmpty then .error .noPredicates else return predicates

/-- Reads what a query asks of a field: operators, a pattern, or equality. -/
def readField (value : Value) : Except ConditionFault (List Predicate) :=
  match value with
  | .document fields => if hasOperators fields then readAll fields else .ok [eq value]
  | .regex text options => return [pattern (← Pattern.ofCondition text options)]
  | _ => .ok [eq value]

end Predicate

namespace Query

/-- Reads what a query asks of the value at a path. -/
def readField (name : String) (value : Value) : Except ConditionFault Query := do
  let path ← (Path.parse name).mapError (.path name)
  let predicates ← Predicate.readField value
  return field path predicates

/-- One part stands for itself. -/
def ofParts : List Query → Query
  | [q] => q
  | parts => and parts

mutual

def readEntries : List (String × Value) → Except ConditionFault (List Query)
  | [] => .ok []
  | (name, value) :: rest => do
    let part ←
      if name = "$and" then (readClauses value).map and
      else if name = "$or" then (readClauses value).map or
      else if startsWithDollar name then .error (.unknownQueryOperator name)
      else readField name value
    let parts ← readEntries rest
    return part :: parts

/-- Reads the clauses of a logical operator. There has to be one. -/
def readClauses : Value → Except ConditionFault (List Query)
  | .array items => do
    let clauses ← readClauseItems items
    if clauses.isEmpty then .error .noClauses else return clauses
  | _ => .error .clausesNotArray

def readClauseItems : List Value → Except ConditionFault (List Query)
  | [] => .ok []
  | .document (first :: fields) :: rest => do
    let parts ← readEntries (first :: fields)
    let clauses ← readClauseItems rest
    return ofParts parts :: clauses
  | _ :: _ => .error .clauseNotDocument

end

def read (fields : Fields) : Except ConditionFault Query := (readEntries fields).map ofParts

end Query

/-- Reads a condition. -/
def Condition.parse (operand : Value) : Except ConditionFault Condition :=
  match operand with
  | .document [] => .ok (equals operand)
  | .document fields =>
    if fields.all fun field => predicateNames.contains field.1 then
      (Predicate.readAll fields).map predicates
    else (Query.read fields).map query
  | .regex text options => return pattern (← Pattern.ofCondition text options) operand
  | _ => .ok (equals operand)

end DocUpdate
