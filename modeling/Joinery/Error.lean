import Joinery.Dialect

/-! The reasons why a statement cannot be built, compiled or read back, with the wording of each. -/
namespace Joinery

/-- How many values an operator takes. -/
inductive Arity where
  | exactly (n : Nat)
  | atLeast (n : Nat)
deriving DecidableEq, Repr

namespace Arity

def accepts : Arity → Nat → Bool
  | .exactly n, count => count == n
  | .atLeast n, count => decide (n ≤ count)

def text : Arity → String
  | .exactly n => "exactly " ++ toString n
  | .atLeast n => "at least " ++ toString n

end Arity

/-- What is wrong with the arguments that a condition tree was built from. -/
inductive Malformed where
  /-- A preloaded field of another model. -/
  | foreignPreload (field model : String)
  /-- A connective or a collection predicate without conditions. -/
  | noCondition (operator : String)
  /-- An operator that combines conditions instead of comparing a field. -/
  | noComparison (operator : String)
  | wrongArity (operator : String) (arity : Arity) (count : Nat)
  /-- A range comparison without two ends. -/
  | noRange (operator : String)
  | notUpdatable (field : String)
  | notNullable (field : String)
  /-- A nested join of a preloaded collection that filters or does not preload. -/
  | filteredCollection (relation nested : String)
  | emptyUpdate (model : String)
  | emptyDelete (model : String)
deriving DecidableEq, Repr

def Malformed.message : Malformed → String
  | .foreignPreload field model => "cannot preload " ++ field ++ " in a condition on " ++ model
  | .noCondition operator => operator ++ " requires at least one condition"
  | .noComparison operator => operator ++ " cannot compare a field"
  | .wrongArity operator arity count =>
    operator ++ " takes " ++ arity.text ++ " values, got " ++ toString count
  | .noRange operator => operator ++ " takes exactly 2 values"
  | .notUpdatable field => field ++ " is not updatable"
  | .notNullable field => field ++ " is not nullable"
  | .filteredCollection relation nested =>
    "only preloads are allowed in the collection " ++ relation ++ "; " ++ nested
      ++ " filters or does not preload"
  | .emptyUpdate model => "update of " ++ model ++ " requires at least one set"
  | .emptyDelete model => "delete of " ++ model ++ " requires at least one condition"

/-- Why building, compiling or verifying failed. -/
inductive QueryError where
  /-- An operator, function or assignment without a rendering in the dialect. -/
  | unsupported (name : String) (dialect : Dialect)
  | malformed (cause : Malformed)
  /-- A field of a model that is joined several times, with no appearance selected. -/
  | ambiguousModel (model : String) (joins : Nat)
  /-- An appearance past the number of joins of the model. -/
  | appearanceOutOfRange (model : String) (appearance joins : Nat)
  /-- A relation read without having been loaded. -/
  | relationNotLoaded (model : String)
  | unknownDialect (name : String)
deriving DecidableEq, Repr

namespace QueryError

def message : QueryError → String
  | .unsupported name dialect => name ++ " is not supported by " ++ dialect.name
  | .malformed cause => "Malformed condition tree: " ++ cause.message
  | .ambiguousModel model joins =>
    model ++ " is joined " ++ toString joins
      ++ " times in the query; select one with appearance()"
  | .appearanceOutOfRange model appearance joins =>
    "appearance " ++ toString appearance ++ " of " ++ model ++ " selected but it is joined "
      ++ toString joins ++ " times"
  | .relationNotLoaded model => "Relation not loaded: " ++ model
  | .unknownDialect name => "Unknown dialector: " ++ name

def isUnsupported : QueryError → Bool
  | .unsupported _ _ => true
  | _ => false

def isNotLoaded : QueryError → Bool
  | .relationNotLoaded _ => true
  | _ => false

end QueryError

def Dialect.parse (s : String) : Except QueryError Dialect :=
  match parse? s with
  | some d => .ok d
  | none => .error (.unknownDialect (folded s))

end Joinery
