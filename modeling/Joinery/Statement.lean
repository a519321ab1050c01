import Joinery.Assignment
import Joinery.Filter

/-! Statements over a root model.
Where an update or a delete sees other tables, each engine has its own place for them: join clauses, a
list of tables with the join conditions in the filter, or a subquery for the keys. -/
namespace Joinery

/-- A compiled statement: text with question marks, their values, and what to load. -/
structure Statement where
  sql : String
  params : List Value
  preloads : List Preload
  dialect : Dialect
deriving Repr

namespace Statement

def ofSql (q : Sql) (d : Dialect) (preloads : List Preload) : Statement :=
  ⟨q.toText, q.params, preloads, d⟩

def nativeSql (s : Statement) : String :=
  Sql.numberPlaceholders s.sql s.dialect

end Statement

inductive Order where
  | ascending
  | descending
deriving DecidableEq, Repr

def Order.text : Order → String
  | .ascending => "ASC"
  | .descending => "DESC"

def joinClauses (joins : List PlannedJoin) : Sql :=
  .text (String.join (joins.map (fun j => " " ++ j.clause)))

def joinSources (joins : List PlannedJoin) : String :=
  String.intercalate ", " (joins.map PlannedJoin.source)

/-- The `WHERE` with the conditions of joins that stand in no clause, and the filter. -/
def whereClause (joins : List PlannedJoin) (filter : Sql) : Sql :=
  let conditions := joins.map (fun j => Sql.text j.on) ++ (if filter.isEmpty then [] else [filter])
  if conditions.isEmpty then .empty else .text " WHERE " ++ Sql.joined " AND " conditions

structure Query where
  root : Entity
  conditions : List Condition
  order : List (Field × Order)
  limit : Option Nat
  offset : Option Nat
deriving Repr

namespace Query

def ofConditions (root : Entity) (conditions : List Condition) : Query :=
  ⟨root, conditions, [], none, none⟩

def orderedBy (q : Query) (f : Field) (o : Order) : Query :=
  { q with order := q.order ++ [(f, o)] }

/-- The largest row count, which MySQL writes where only an offset is asked for. -/
def largestLimit : Nat := UInt64.size - 1

/-- The part of the rows to return. SQL Server numbers rows of an ordered result only. -/
def pagination (d : Dialect) (limit offset : Option Nat) (ordered : Bool) : String :=
  match limit, offset with
  | none, none => ""
  | _, _ =>
    match d with
    | .sqlserver =>
      (if ordered then "" else " ORDER BY (SELECT NULL)")
        ++ " OFFSET " ++ toString (offset.getD 0) ++ " ROWS"
        ++ (match limit with
          | some n => " FETCH NEXT " ++ toString n ++ " ROWS ONLY"
          | none => "")
    | _ =>
      (match limit, d with
        | some n, _ => " LIMIT " ++ toString n
        | none, .mysql => " LIMIT " ++ toString largestLimit
        | none, .sqlite => " LIMIT -1"
        | none, _ => "")
        ++ (match offset with
          | some n => " OFFSET " ++ toString n
          | none => "")

def orderColumns (p : Plan) : List (Field × Order) → Except QueryError (List Sql)
  | [] => return []
  | (f, o) :: rest => do
    let column ← p.reference f
    let others ← orderColumns p rest
    return (column ++ .text (" " ++ o.text)) :: others

def orderClause (p : Plan) (order : List (Field × Order)) : Except QueryError Sql := do
  let columns ← orderColumns p order
  return if columns.isEmpty then .empty else .text " ORDER BY " ++ Sql.joined ", " columns

/-- The columns of the root, then those of the preloads. -/
def selectClause (p : Plan) : String :=
  "SELECT " ++ p.root.aliasName ++ ".*"
    ++ String.join (p.selections.map (fun s => ", " ++ s.text p.dialect))

def toSql (q : Query) (p : Plan) : Except QueryError Sql := do
  let filter ← p.filter q.conditions
  let order ← orderClause p q.order
  return .text (selectClause p ++ " FROM " ++ q.root.table) ++ joinClauses p.joins
    ++ whereClause [] filter ++ order
    ++ .text (pagination p.dialect q.limit q.offset (!q.order.isEmpty))

def compile (q : Query) (d : Dialect) : Except QueryError Statement := do
  let p := Plan.ofConditions d q.root q.conditions
  return .ofSql (← q.toSql p) d p.preloads

end Query

def updateSql (p : Plan) (assignments : List Sql) (filter : Sql) : Sql :=
  let table := p.root.entity.table
  let sets := Sql.joined ", " assignments
  if p.joins.isEmpty then .text ("UPDATE " ++ table ++ " SET ") ++ sets ++ whereClause [] filter
  else
    match p.dialect with
    | .mysql =>
      .text ("UPDATE " ++ table) ++ joinClauses p.joins ++ .text " SET " ++ sets
        ++ whereClause [] filter
    | _ =>
      .text ("UPDATE " ++ table ++ " SET ") ++ sets ++ .text (" FROM " ++ joinSources p.joins)
        ++ whereClause p.joins filter

def deleteSql (p : Plan) (filter : Sql) : Sql :=
  let table := p.root.entity.table
  if p.joins.isEmpty then .text ("DELETE FROM " ++ table) ++ whereClause [] filter
  else
    match p.dialect with
    | .postgres =>
      .text ("DELETE FROM " ++ table ++ " USING " ++ joinSources p.joins)
        ++ whereClause p.joins filter
    | .sqlite =>
      let key := p.root.column p.root.entity.primaryKey
      .text ("DELETE FROM " ++ table ++ " WHERE " ++ key ++ " IN (SELECT " ++ key ++ " FROM " ++ table)
        ++ joinClauses p.joins ++ whereClause [] filter ++ .text ")"
    | _ =>
      .text ("DELETE " ++ table ++ " FROM " ++ table) ++ joinClauses p.joins ++ whereClause [] filter

structure Update where
  root : Entity
  conditions : List Condition
  assignments : List Assignment
deriving Repr

namespace Update

def ofConditions (root : Entity) (conditions : List Condition) : Update :=
  ⟨root, conditions, []⟩

def push (u : Update) (a : Assignment) : Except QueryError Update := do
  a.validate
  return { u with assignments := u.assignments ++ [a] }

def set (u : Update) (f : Field) (v : Value) : Except QueryError Update :=
  u.push (f.assign v)

def setField (u : Update) (f other : Field) : Except QueryError Update :=
  u.push (f.assignField other)

def setNull (u : Update) (f : Field) : Except QueryError Update :=
  u.push f.assignNull

/-- Adds assignments, up to the first that its field refuses. -/
def setMultiple (u : Update) (assignments : List Assignment) : Except QueryError Update :=
  assignments.foldlM push u

/-- The column that an assignment names. -/
def target (p : Plan) (qualified : Bool) (f : Field) : Except QueryError String :=
  if !qualified then .ok f.columnName
  else if f.belongsTo p.root.entity.toModel && f.appearance.isNone then
    .ok (p.root.column f.columnName)
  else do
    return (← p.aliasFor f) ++ "." ++ f.columnName

def assignmentSql (p : Plan) (qualified : Bool) (a : Assignment) : Except QueryError Sql := do
  let column ← target p qualified a.field
  let value ←
    match a.value with
    | .value v => pure (Sql.bound v)
    | .field other => p.reference other
    | .null => pure (Sql.text "NULL")
  return .text (column ++ " = ") ++ value

/-- Whether an assignment goes to another model than the root. -/
def assignsOthers (u : Update) : Bool :=
  u.assignments.any (fun a => !a.field.belongsTo u.root.toModel)

/-- The statement as a fragment. MySQL names the table of each assigned column once there are
several. -/
def toSql (u : Update) (p : Plan) : Except QueryError Sql := do
  let filter ← p.filter u.conditions
  let qualified := p.dialect == .mysql && (u.assignsOthers || !p.joins.isEmpty)
  let assignments ← u.assignments.mapM (assignmentSql p qualified)
  return updateSql p assignments filter

def compile (u : Update) (d : Dialect) : Except QueryError Statement := do
  if u.assignments.isEmpty then throw (.malformed (.emptyUpdate u.root.name))
  if u.assignsOthers && d != .mysql then throw (.unsupported "set_multiple" d)
  let q ← u.toSql (Plan.ofConditions d u.root u.conditions)
  return .ofSql q d []

end Update

structure Delete where
  root : Entity
  conditions : List Condition
deriving Repr

namespace Delete

/-- The statement as a fragment. Rows of a model with a deletion mark are marked. -/
def toSql (x : Delete) (p : Plan) : Except QueryError Sql := do
  let filter ← p.filter x.conditions
  match x.root.deletedAt with
  | some mark =>
    let column := if p.dialect == .mysql && !p.joins.isEmpty then p.root.column mark else mark
    return updateSql p [.text (column ++ " = CURRENT_TIMESTAMP")] filter
  | none => return deleteSql p filter

def compile (x : Delete) (d : Dialect) : Except QueryError Statement := do
  if x.conditions.isEmpty then throw (.malformed (.emptyDelete x.root.name))
  let q ← x.toSql (Plan.ofConditions d x.root x.conditions)
  return .ofSql q d []

end Delete
end Joinery
