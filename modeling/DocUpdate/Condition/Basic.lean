import DocUpdate.Path.Read
import DocUpdate.Pattern.Basic

/-!
# Conditions on the items of an array

A condition compares whole items, or asks for fields of items that are documents.
-/

namespace DocUpdate

/-- A test of a value that may be missing. -/
inductive Predicate where
  | eq (value : Value)
  | ne (value : Value)
  | gt (value : Value)
  | gte (value : Value)
  | lt (value : Value)
  | lte (value : Value)
  | oneOf (values : List Value)
  | noneOf (values : List Value)
  | pattern (p : Pattern)
  | present (expected : Bool)
  | negation (predicates : List Predicate)

/-- A test of the fields of a document. -/
inductive Query where
  | and (parts : List Query)
  | or (parts : List Query)
  | field (path : Path) (predicates : List Predicate)

/-- What an item has to meet. -/
inductive Condition where
  | equals (value : Value)
  /-- A match of the pattern, or the pattern itself as a value. -/
  | pattern (p : Pattern) (literal : Value)
  | predicates (all : List Predicate)
  | query (q : Query)

/-- Why a value is not a condition. -/
inductive ConditionFault where
  | unknownQueryOperator (name : String)
  | unknownPredicate (name : String)
  | path (text : String) (fault : PathFault)
  | clausesNotArray
  | clauseNotDocument
  | noClauses
  | presentNotBool
  | optionsAlone
  | optionsNotString
  | patternNotString
  | negationOperand
  | noPredicates
  | listNotArray (name : String)
  | pattern (fault : PatternFault)
deriving DecidableEq

end DocUpdate
