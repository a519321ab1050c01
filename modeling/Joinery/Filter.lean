import Joinery.Plan
import Joinery.Sql.Literal

/-! The filter of a statement: its predicates written against the tables of a plan. -/
namespace Joinery

/-- The functions of a field around its column, innermost first, with the values they bind. -/
def FunctionCall.applyAll (d : Dialect) :
    List FunctionCall → String → List Value → Except QueryError (String × List Value)
  | [], text, values => .ok (text, values)
  | call :: rest, text, values => do
    let strategy ← call.function.resolve d
    let count := call.values.length
    applyAll d rest (strategy.apply text count)
      (values ++ call.values.take (strategy.placeholders count))

def Field.applied (d : Dialect) (f : Field) (column : String) : Except QueryError Sql := do
  let (text, values) ← FunctionCall.applyAll d f.functions column []
  return .fragment text values

/-- The mark in raw SQL that stands for the table of its scope. -/
def tableMark : List Char :=
  "\x7btable\x7d".toList

/-- The text with every mark replaced, read from the left; `skip` characters belong to a mark. -/
def replaceMarks (replacement : List Char) (skip : Nat) : List Char → List Char
  | [] => []
  | c :: rest =>
    match skip with
    | skip + 1 => replaceMarks replacement skip rest
    | 0 =>
      if tableMark.isPrefixOf (c :: rest) then
        replacement ++ replaceMarks replacement (tableMark.length - 1) rest
      else c :: replaceMarks replacement 0 rest

/-- Raw SQL in the scope of a table. -/
def inScope (sql aliasName : String) : String :=
  String.ofList (replaceMarks aliasName.toList 0 sql.toList)

namespace Plan

def column (p : Plan) (t : Table) (f : Field) : Except QueryError Sql :=
  f.applied p.dialect (t.column f.columnName)

/-- A field of any table of the statement. -/
def reference (p : Plan) (f : Field) : Except QueryError Sql := do
  f.applied p.dialect ((← p.aliasFor f) ++ "." ++ f.columnName)

def operand (p : Plan) : Operand → Except QueryError Sql
  | .value v => .ok (.bound v)
  | .field f => p.reference f

def rightHandSide (o : Operator) (operands : List Sql) : Except QueryError Sql :=
  match o with
  | .isNull => .ok .empty
  | .isNotNull => .ok .empty
  | .between => range
  | .notBetween => range
  | .inList => list
  | .notInList => list
  | _ => .ok (operands.foldl (fun q x => q ++ .text " " ++ x) .empty)
where
  range : Except QueryError Sql :=
    match operands with
    | [first, last] => .ok (.text " " ++ first ++ .text " AND " ++ last)
    | _ => .error (.malformed (.noRange o.name))
  list : Except QueryError Sql :=
    .ok (.text " (" ++ Sql.joined ", " operands ++ .text ")")

def comparison (p : Plan) (lhs : Sql) (o : Operator) (operands : List Sql) (escape : Option Value) :
    Except QueryError Sql := do
  let token ← o.resolve p.dialect
  let negation := if o.negatedOn p.dialect then Sql.text "NOT " else .empty
  let rhs ← rightHandSide o operands
  let compared := negation ++ lhs ++ .text (" " ++ token) ++ rhs
  match escape with
  | none => return compared
  | some character =>
    let escapeToken ← Operator.escape.resolve p.dialect
    return compared ++ .text (" " ++ escapeToken ++ " ") ++ .bound character

/-- Predicates under a connective; the ones that wrote nothing are gone. -/
def connected (c : Connective) (token : String) (written : List Sql) : Except QueryError Sql :=
  if written.isEmpty then
    if c.mayVanish then .ok .empty else .error (.malformed (.noCondition c.operator.name))
  else
    match c with
    | .not =>
      .ok (.text ("(" ++ token ++ " (") ++ Sql.joined (" " ++ Operator.and.token ++ " ") written
        ++ .text "))")
    | _ => .ok (.text "(" ++ Sql.joined (" " ++ token ++ " ") written ++ .text ")")

/-- The subquery for related rows: the key, the conditions, and the guard against deleted rows. -/
def subquery (t parent : Table) (r : Relation) (written : List Sql) (live : Option String) : Sql :=
  let conditions := .text (parent.keyEquality r) :: written ++ live.toList.map Sql.text
  .text ("EXISTS (SELECT 1 FROM " ++ r.target.table ++ " " ++ t.aliasName ++ " WHERE ")
    ++ Sql.joined " AND " conditions ++ .text ")"

mutual

def predicate (p : Plan) (t : Table) : Predicate → Except QueryError Sql
  | .compare f o values escape => do
    let lhs ← p.column t f
    p.comparison lhs o (values.map Sql.bound) escape
  | .compareFields f o operands => do
    let lhs ← p.column t f
    let operands ← operands.mapM p.operand
    p.comparison lhs o operands none
  | .connect c conditions => do
    let token ← c.operator.resolve p.dialect
    connected c token (← predicates p t conditions)
  | .related r conditions => do
    let table := t.reach r
    let written ← predicates p table conditions
    let live := table.liveness? (fun mark => conditions.any (·.affects mark))
    return subquery table t r written live
  | .raw sql values => return .fragmentFor p.dialect (inScope sql t.aliasName) values

/-- Those of the predicates that write something, in order. -/
def predicates (p : Plan) (t : Table) : List Predicate → Except QueryError (List Sql)
  | [] => return []
  | c :: rest => do
    let q ← predicate p t c
    let written ← predicates p t rest
    return if q.isEmpty then written else q :: written

end

mutual

/-- The predicates of a condition, with those of the joins below it. -/
def conditionFilters (p : Plan) (t : Table) : Condition → Except QueryError (List Sql)
  | .filter c => do
    let q ← p.predicate t c
    return if q.isEmpty then [] else [q]
  | .join r _ conditions => scopeFilters p (t.reach r) conditions
  | .preload _ _ => return []
  | .collection _ _ => return []

def scopeFilters (p : Plan) (t : Table) : List Condition → Except QueryError (List Sql)
  | [] => return []
  | c :: rest => do
    let first ← conditionFilters p t c
    let others ← scopeFilters p t rest
    return first ++ others

end

/-- The conjunction of every predicate, in parentheses; empty when nothing filters. -/
def filter (p : Plan) (conditions : List Condition) : Except QueryError Sql := do
  let written ← p.scopeFilters p.root conditions
  let live := p.root.liveness? (fun mark => conditions.any (·.affects mark))
  let all := written ++ live.toList.map Sql.text
  return if all.isEmpty then .empty else .text "(" ++ Sql.joined " AND " all ++ .text ")"

end Plan

/-- What the conditions on a model contribute to a statement, on their own. -/
def Condition.filterOf (d : Dialect) (root : Entity) (conditions : List Condition) :
    Except QueryError Sql :=
  (Plan.ofConditions d root conditions).filter conditions

end Joinery
