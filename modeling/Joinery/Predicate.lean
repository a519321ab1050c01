import Joinery.Model

/-! Predicates: the conditions that select rows.
A predicate compares fields, combines other predicates, asks for related rows, or is SQL given as
text. -/
namespace Joinery

/-- The right-hand side of a comparison. -/
inductive Operand where
  | value (v : Value)
  | field (f : Field)
deriving Repr, BEq

def Operand.value? : Operand → Option Value
  | .value v => some v
  | .field _ => none

/-- The ways to combine predicates. -/
inductive Connective where
  | and
  | or
  | not
  | xor
deriving DecidableEq, Repr

def Connective.operator : Connective → Operator
  | .and => .and
  | .or => .or
  | .not => .not
  | .xor => .xor

/-- Whether combining nothing gives nothing, and is no error. -/
def Connective.mayVanish : Connective → Bool
  | .and => true
  | .or => true
  | .not => false
  | .xor => false

inductive Predicate where
  /-- A field against values; a pattern may have an escape character. -/
  | compare (field : Field) (operator : Operator) (values : List Value) (escape : Option Value)
  /-- A field against operands, at least one of them another field. -/
  | compareFields (field : Field) (operator : Operator) (operands : List Operand)
  | connect (connective : Connective) (conditions : List Predicate)
  /-- Some related row satisfies every condition. -/
  | related (relation : Relation) (conditions : List Predicate)
  /-- SQL with placeholders, in which a mark stands for the table that the predicate is about. -/
  | raw (sql : String) (values : List Value)
deriving Repr

namespace Predicate

mutual

/-- Whether the predicate compares a column of its own scope, seen through connectives alone. -/
def affects (column : String) : Predicate → Bool
  | .compare field _ _ _ => field.columnName == column
  | .compareFields field _ _ => field.columnName == column
  | .connect _ conditions => anyAffects column conditions
  | .related _ _ => false
  | .raw _ _ => false

def anyAffects (column : String) : List Predicate → Bool
  | [] => false
  | p :: rest => p.affects column || anyAffects column rest

end

theorem anyAffects_eq_any (column : String) (ps : List Predicate) :
    anyAffects column ps = ps.any (·.affects column) := by
  induction ps with
  | nil => simp [anyAffects]
  | cons p rest ih => simp [anyAffects, ih]

mutual

def beq : Predicate → Predicate → Bool
  | .compare f o vs e, .compare f' o' vs' e' => f == f' && o == o' && vs == vs' && e == e'
  | .compareFields f o os, .compareFields f' o' os' => f == f' && o == o' && os == os'
  | .connect c ps, .connect c' ps' => c == c' && beqList ps ps'
  | .related r ps, .related r' ps' => r == r' && beqList ps ps'
  | .raw s vs, .raw s' vs' => s == s' && vs == vs'
  | _, _ => false

def beqList : List Predicate → List Predicate → Bool
  | [], [] => true
  | p :: ps, q :: qs => beq p q && beqList ps qs
  | _, _ => false

end

instance : BEq Predicate := ⟨beq⟩

/-- The conjunction; of nothing, it contributes nothing. -/
def and (conditions : List Predicate) : Predicate :=
  .connect .and conditions

def or (conditions : List Predicate) : Predicate :=
  .connect .or conditions

/-- Not all of the conditions hold; there must be one. -/
def not (conditions : List Predicate) : Except QueryError Predicate :=
  if conditions.isEmpty then .error (.malformed (.noCondition Operator.not.name))
  else .ok (.connect .not conditions)

/-- An odd number of the conditions hold. -/
def xor (first : Predicate) (rest : List Predicate) : Predicate :=
  .connect .xor (first :: rest)

end Predicate

namespace Field

/-- A comparison whose operator is known to fit its values. -/
def compare (f : Field) (o : Operator) (values : List Value) : Predicate :=
  .compare f o values none

def is (f : Field) (o : Operator) (values : List Value) : Except QueryError Predicate := do
  o.check values.length
  return f.compare o values

def eq (f : Field) (v : Value) : Predicate := f.compare .eq [v]

def ne (f : Field) (v : Value) : Predicate := f.compare .notEq [v]

def lt (f : Field) (v : Value) : Predicate := f.compare .lt [v]

def ltOrEq (f : Field) (v : Value) : Predicate := f.compare .ltOrEq [v]

def gt (f : Field) (v : Value) : Predicate := f.compare .gt [v]

def gtOrEq (f : Field) (v : Value) : Predicate := f.compare .gtOrEq [v]

def between (f : Field) (first last : Value) : Predicate := f.compare .between [first, last]

def notBetween (f : Field) (first last : Value) : Predicate := f.compare .notBetween [first, last]

def isDistinct (f : Field) (v : Value) : Predicate := f.compare .isDistinct [v]

def isNotDistinct (f : Field) (v : Value) : Predicate := f.compare .isNotDistinct [v]

def nullSafeEq (f : Field) (v : Value) : Predicate := f.compare .nullSafeEq [v]

def isNull (f : Field) : Predicate := f.compare .isNull []

def isNotNull (f : Field) : Predicate := f.compare .isNotNull []

def inList (f : Field) (values : List Value) : Except QueryError Predicate := f.is .inList values

def notInList (f : Field) (values : List Value) : Except QueryError Predicate :=
  f.is .notInList values

def matching (f : Field) (o : Operator) (pattern : String) : Predicate :=
  f.compare o [.text pattern]

def like (f : Field) (pattern : String) : Predicate := f.matching .like pattern

/-- A pattern in which `escape` takes the next character literally. -/
def likeEscape (f : Field) (pattern : String) (escape : Char) : Predicate :=
  .compare f .like [.text pattern] (some (.text (String.singleton escape)))

def compareFields (f : Field) (o : Operator) (others : List Field) : Predicate :=
  .compareFields f o (others.map .field)

def isFields (f : Field) (o : Operator) (others : List Field) : Except QueryError Predicate := do
  o.check others.length
  return f.compareFields o others

/-- A comparison against untyped operands; with values alone it is a comparison against values. -/
def compareOperands (f : Field) (o : Operator) (operands : List Operand) : Predicate :=
  if operands.all (fun x => x.value?.isSome) then .compare f o (operands.filterMap Operand.value?) none
  else .compareFields f o operands

/-- A comparison against untyped operands by any operator, if it fits. -/
def isOperands (f : Field) (o : Operator) (operands : List Operand) :
    Except QueryError Predicate := do
  o.check operands.length
  return f.compareOperands o operands

end Field

namespace Relation

/-- The conditions of a collection predicate; there must be one. -/
def checked (r : Relation) (quantifier : String) (conditions : List Predicate) :
    Except QueryError (List Predicate) :=
  if conditions.isEmpty then
    .error (.malformed (.noCondition (quantifier ++ " over " ++ r.display)))
  else .ok conditions

/-- At least one related row satisfies every condition. -/
def anyOf (r : Relation) (conditions : List Predicate) : Except QueryError Predicate := do
  return .related r (← r.checked "any" conditions)

/-- No related row satisfies every condition. -/
def noneOf (r : Relation) (conditions : List Predicate) : Except QueryError Predicate := do
  return .connect .not [.related r (← r.checked "none" conditions)]

/-- Every related row satisfies the conditions: there is no counterexample. -/
def allOf (r : Relation) (conditions : List Predicate) : Except QueryError Predicate := do
  return .connect .not [.related r [.connect .not (← r.checked "all" conditions)]]

end Relation
end Joinery
