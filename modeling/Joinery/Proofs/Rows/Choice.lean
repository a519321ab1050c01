import Joinery.Proofs.Builder
import Joinery.Proofs.Rows.World

/-! How statements choose rows of their root.
A query, an update and a delete of the same conditions plan the same joins and the same filter, and put
them where the engine has a place for them. Their texts are those of the choices below. -/
namespace Joinery

/-- The places of joins and filter in a statement. -/
inductive Choice where
  /-- A filter of the root's own rows. -/
  | alone (filter : Sql)
  /-- Join clauses after the root. -/
  | joined (links : List Link) (filter : Sql)
  /-- A list of tables, with the conditions of the joins in the filter. -/
  | listed (links : List Link) (filter : Sql)
  /-- Join clauses in a subquery for the keys of the root. -/
  | keyed (links : List Link) (filter : Sql)
deriving Repr

namespace Choice

def ofUpdate (d : Dialect) (links : List Link) (filter : Sql) : Choice :=
  if links.isEmpty then .alone filter
  else
    match d with
    | .mysql => .joined links filter
    | _ => .listed links filter

def ofDelete (d : Dialect) (links : List Link) (filter : Sql) : Choice :=
  if links.isEmpty then .alone filter
  else
    match d with
    | .postgres => .listed links filter
    | .sqlite => .keyed links filter
    | _ => .joined links filter

/-- The test that a row of the root has one of the keys of a subquery, after the head of a statement. -/
def keyText (head : String) (t : Table) (links : List Link) (filter : Sql) : Sql :=
  let key := t.column t.entity.primaryKey
  .text (head ++ " WHERE " ++ key ++ " IN (SELECT " ++ key ++ " FROM " ++ t.entity.table)
    ++ joinClauses (links.map Link.planned) ++ whereClause [] filter ++ .text ")"

def selectText (t : Table) (columns : String) : Choice → Sql
  | .alone filter => .text (columns ++ " FROM " ++ t.entity.table) ++ whereClause [] filter
  | .joined links filter =>
    .text (columns ++ " FROM " ++ t.entity.table) ++ joinClauses (links.map Link.planned)
      ++ whereClause [] filter
  | .listed links filter =>
    .text (columns ++ " FROM " ++ t.entity.table ++ ", " ++ joinSources (links.map Link.planned))
      ++ whereClause (links.map Link.planned) filter
  | .keyed links filter => keyText (columns ++ " FROM " ++ t.entity.table) t links filter

def updateText (t : Table) (assignments : List Sql) : Choice → Sql
  | .alone filter =>
    .text ("UPDATE " ++ t.entity.table ++ " SET ") ++ Sql.joined ", " assignments
      ++ whereClause [] filter
  | .joined links filter =>
    .text ("UPDATE " ++ t.entity.table) ++ joinClauses (links.map Link.planned) ++ .text " SET "
      ++ Sql.joined ", " assignments ++ whereClause [] filter
  | .listed links filter =>
    .text ("UPDATE " ++ t.entity.table ++ " SET ") ++ Sql.joined ", " assignments
      ++ .text (" FROM " ++ joinSources (links.map Link.planned))
      ++ whereClause (links.map Link.planned) filter
  | .keyed links filter =>
    .text ("UPDATE " ++ t.entity.table ++ " SET ") ++ Sql.joined ", " assignments
      ++ keyText "" t links filter

def deleteText (t : Table) : Choice → Sql
  | .alone filter => .text ("DELETE FROM " ++ t.entity.table) ++ whereClause [] filter
  | .joined links filter =>
    .text ("DELETE " ++ t.entity.table ++ " FROM " ++ t.entity.table)
      ++ joinClauses (links.map Link.planned) ++ whereClause [] filter
  | .listed links filter =>
    .text ("DELETE FROM " ++ t.entity.table ++ " USING " ++ joinSources (links.map Link.planned))
      ++ whereClause (links.map Link.planned) filter
  | .keyed links filter => keyText ("DELETE FROM " ++ t.entity.table) t links filter

end Choice

theorem updateSql_eq {p : Plan} {links : List Link} (h : p.joins = links.map Link.planned)
    (assignments : List Sql) (filter : Sql) :
    updateSql p assignments filter =
      (Choice.ofUpdate p.dialect links filter).updateText p.root assignments := by
  unfold updateSql Choice.ofUpdate
  rw [h, List.isEmpty_map]
  by_cases hempty : links.isEmpty = true
  · simp only [hempty, if_true]
    rfl
  · simp only [hempty]
    cases p.dialect <;> rfl

theorem deleteSql_eq {p : Plan} {links : List Link} (h : p.joins = links.map Link.planned)
    (filter : Sql) :
    deleteSql p filter = (Choice.ofDelete p.dialect links filter).deleteText p.root := by
  unfold deleteSql Choice.ofDelete
  rw [h, List.isEmpty_map]
  by_cases hempty : links.isEmpty = true
  · simp only [hempty, if_true]
    rfl
  · simp only [hempty]
    cases p.dialect <;> rfl

namespace Builder

def links (b : Builder) : List Link :=
  Condition.allLinks (.root b.root) b.conditions

theorem joins_plan (b : Builder) (d : Dialect) : (b.plan d).joins = b.links.map Link.planned :=
  Plan.joins_ofConditions

/-- How a statement with a filter chooses its rows. A delete that marks rows is an update. -/
def choice (b : Builder) (d : Dialect) (filter : Sql) : Choice :=
  match b with
  | .query _ => .joined b.links filter
  | .update _ => .ofUpdate d b.links filter
  | .delete x =>
    match x.root.deletedAt with
    | some _ => .ofUpdate d b.links filter
    | none => .ofDelete d b.links filter

/-- Whether a kind of statement lists the joined tables, on a dialect without join clauses for it. -/
def listsTables (b : Builder) (d : Dialect) : Bool :=
  match b with
  | .query _ => false
  | .update _ => d != .mysql
  | .delete x =>
    match x.root.deletedAt with
    | some _ => d != .mysql
    | none => d == .postgres

def textOf (b : Builder) (d : Dialect) (c : Choice) : Except QueryError Sql :=
  match b with
  | .query q => do
    let order ← Query.orderClause (b.plan d) q.order
    return c.selectText (.root q.root) (Query.selectClause (b.plan d)) ++ order
      ++ .text (Query.pagination d q.limit q.offset (!q.order.isEmpty))
  | .update u => do
    let qualified := d == .mysql && (u.assignsOthers || !b.links.isEmpty)
    let assignments ← u.assignments.mapM (Update.assignmentSql (b.plan d) qualified)
    return c.updateText (.root u.root) assignments
  | .delete x =>
    match x.root.deletedAt with
    | some mark =>
      let column := if d == .mysql && !b.links.isEmpty then (Table.root x.root).column mark else mark
      return c.updateText (.root x.root) [.text (column ++ " = CURRENT_TIMESTAMP")]
    | none => return c.deleteText (.root x.root)

/-- Every statement is written around the choice of its rows. -/
theorem toSql_eq (b : Builder) (d : Dialect) :
    b.toSql d = (b.plan d).filter b.conditions >>= fun filter => b.textOf d (b.choice d filter) := by
  have hjoins := b.joins_plan d
  have hroot : (b.plan d).root = .root b.root := Plan.root_ofConditions
  have hdialect : (b.plan d).dialect = d := Plan.dialect_ofConditions
  cases b with
  | query q =>
    simp only [toSql, Query.toSql, choice, textOf, Choice.selectText]
    generalize Builder.plan (.query q) d = p at *
    rw [hjoins, hdialect]
    rfl
  | update u =>
    simp only [toSql, Update.toSql, choice, textOf]
    generalize Builder.plan (.update u) d = p at *
    simp only [updateSql_eq hjoins, hjoins, hroot, hdialect, List.isEmpty_map]
    rfl
  | delete x =>
    simp only [toSql, Delete.toSql, choice, textOf]
    generalize Builder.plan (.delete x) d = p at *
    simp only [updateSql_eq hjoins, deleteSql_eq hjoins, hjoins, hroot, hdialect, List.isEmpty_map]
    cases x.root.deletedAt <;> rfl

theorem exists_choice {b : Builder} {d : Dialect} {s : Statement} (h : b.compile d = .ok s) :
    ∃ filter, (b.plan d).filter b.conditions = .ok filter ∧
      (b.textOf d (b.choice d filter)).map Sql.toText = .ok s.sql := by
  obtain ⟨q, hq, hs⟩ := compile_eq_ok h
  rw [toSql_eq, bind_eq_ok] at hq
  obtain ⟨filter, hfilter, htext⟩ := hq
  refine ⟨filter, hfilter, ?_⟩
  rw [htext, hs]
  rfl

end Builder
end Joinery
