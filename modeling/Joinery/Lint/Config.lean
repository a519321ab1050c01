/-! The names that a lint run looks for. -/
namespace Joinery
namespace Lint

structure Config where
  /-- Functions that start a statement. -/
  queryFunctions : List String
  /-- Functions that combine conditions. -/
  connectorFunctions : List String
  /-- Methods of a statement that take a field of a joined model. -/
  orderMethods : List String
  /-- Methods of an update that take fields of joined models. -/
  setMethods : List String
  /-- Methods of a field that make a condition. -/
  comparisonMethods : List String
  /-- Methods of a relation that make a collection predicate. -/
  collectionMethods : List String
  /-- The models of relations that are not named after them, in the order of the relations. -/
  relationAliases : List (String × String)
  /-- Models whose fields are checked as untyped operands, besides those that a file names. -/
  models : List String
deriving DecidableEq, Repr

namespace Config

def default : Config where
  queryFunctions := ["query", "update", "delete"]
  connectorFunctions := ["and", "or", "not", "xor"]
  orderMethods := ["ascending", "descending"]
  setMethods := ["set_dynamic", "set_multiple"]
  comparisonMethods := ["eq", "ne", "lt", "lt_or_eq", "gt", "gt_or_eq", "between", "not_between",
    "is_distinct", "is_not_distinct", "null_safe_eq", "is_null", "is_not_null", "in_list", "not_in",
    "is", "like", "like_escape", "ilike", "similar_to", "posix_match", "posix_imatch", "regexp",
    "glob"]
  collectionMethods := ["any", "none", "all"]
  relationAliases := []
  models := []

def isQueryFunction (c : Config) (name : String) : Bool :=
  c.queryFunctions.contains name

def isConnector (c : Config) (name : String) : Bool :=
  c.connectorFunctions.contains name

def isOrderMethod (c : Config) (name : String) : Bool :=
  c.orderMethods.contains name

def isSetMethod (c : Config) (name : String) : Bool :=
  c.setMethods.contains name

def isComparison (c : Config) (name : String) : Bool :=
  c.comparisonMethods.contains name

def isCollectionMethod (c : Config) (name : String) : Bool :=
  c.collectionMethods.contains name

/-- The aliases with one more; a relation has one alias, and the relations stay in order. -/
def insertAlias (relation model : String) : List (String × String) → List (String × String)
  | [] => [(relation, model)]
  | (r, m) :: rest =>
    if relation = r then (r, model) :: rest
    else if relation < r then (relation, model) :: (r, m) :: rest
    else (r, m) :: insertAlias relation model rest

end Config
end Lint
end Joinery
