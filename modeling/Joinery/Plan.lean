import Joinery.Condition

/-! The plan of a statement: its tables, joins and preloads.
A join anywhere in the conditions makes its table visible to the whole statement. The root table keeps
its name, a join of the root is called by its relation, and a deeper one by the name of its parent and
its relation. -/
namespace Joinery

/-- A table that takes part in a statement, under its name there. -/
structure Table where
  entity : Entity
  aliasName : String
  isRoot : Bool
deriving Repr

namespace Table

def root (e : Entity) : Table :=
  ⟨e, e.table, true⟩

/-- The table reached over a relation. -/
def reach (t : Table) (r : Relation) : Table :=
  let relation := Text.snakeCase r.name
  ⟨r.target, if t.isRoot then relation else t.aliasName ++ "__" ++ relation, false⟩

def column (t : Table) (name : String) : String :=
  t.aliasName ++ "." ++ name

@[simp] theorem entity_reach (t : Table) (r : Relation) : (t.reach r).entity = r.target := rfl

@[simp] theorem isRoot_reach (t : Table) (r : Relation) : (t.reach r).isRoot = false := rfl

def keyEquality (parent : Table) (r : Relation) : String :=
  (parent.reach r).column r.foreignColumn ++ " = " ++ parent.column r.localColumn

/-- The condition that a row is not marked as deleted, unless the conditions speak of the mark. -/
def liveness? (t : Table) (affected : String → Bool) : Option String :=
  match t.entity.deletedAt with
  | some mark => if affected mark then none else some (t.column mark ++ " IS NULL")
  | none => none

end Table

inductive JoinKind where
  | left
  | inner
deriving DecidableEq, Repr

def JoinKind.text : JoinKind → String
  | .left => "LEFT JOIN"
  | .inner => "INNER JOIN"

/-- A join as it is written; the condition after `ON` binds no parameter. -/
structure PlannedJoin where
  kind : JoinKind
  table : String
  aliasName : String
  on : String
deriving DecidableEq, Repr

namespace PlannedJoin

/-- The join as a clause of a `FROM`. -/
def clause (j : PlannedJoin) : String :=
  j.kind.text ++ " " ++ j.table ++ " " ++ j.aliasName ++ " ON " ++ j.on

/-- The joined table alone, for lists of tables. -/
def source (j : PlannedJoin) : String :=
  j.table ++ " " ++ j.aliasName

end PlannedJoin

inductive Preload where
  /-- Columns of a joined table, selected in the statement. -/
  | joined (model aliasName : String) (columns : List String)
  /-- Rows to load in a statement of their own; the path names the relations that lead there. -/
  | collection (model path : String)
deriving DecidableEq, Repr

/-- A selected column, labelled by its table and itself. -/
structure Selection where
  aliasName : String
  column : String
deriving DecidableEq, Repr

namespace Selection

def label (s : Selection) : String :=
  s.aliasName ++ "__" ++ s.column

def text (d : Dialect) (s : Selection) : String :=
  s.aliasName ++ "." ++ s.column ++ " AS " ++ d.quote s.label

end Selection

structure Plan where
  dialect : Dialect
  root : Table
  tables : List Table
  joins : List PlannedJoin
  selections : List Selection
  preloads : List Preload
deriving Repr

def childPath (path relation : String) : String :=
  if path.isEmpty then relation else path ++ "." ++ relation

namespace Plan

def start (d : Dialect) (root : Entity) : Plan :=
  ⟨d, .root root, [.root root], [], [], []⟩

/-- The columns that are loaded of a table, if any are. -/
def loadedColumns? (aliasName : String) : List Preload → Option (List String)
  | [] => none
  | .joined _ other columns :: rest =>
    if other = aliasName then some columns else loadedColumns? aliasName rest
  | .collection _ _ :: rest => loadedColumns? aliasName rest

/-- Adds columns to the first entry of a table. -/
def extendColumns (aliasName : String) (fresh : List String) : List Preload → List Preload
  | [] => []
  | .joined model other columns :: rest =>
    if other = aliasName then .joined model other (columns ++ fresh) :: rest
    else .joined model other columns :: extendColumns aliasName fresh rest
  | .collection model path :: rest =>
    .collection model path :: extendColumns aliasName fresh rest

/-- Loads fields of a table; columns that are loaded already are not selected again. -/
def load (p : Plan) (t : Table) (fields : List Field) : Plan :=
  let columns := fields.map Field.columnName
  let (fresh, preloads) :=
    match loadedColumns? t.aliasName p.preloads with
    | some known =>
      let fresh := columns.filter (fun c => !known.contains c)
      (fresh, extendColumns t.aliasName fresh p.preloads)
    | none => (columns, p.preloads ++ [Preload.joined t.entity.name t.aliasName columns])
  { p with
    preloads := preloads
    selections := p.selections ++ fresh.map (Selection.mk t.aliasName) }

/-- Loads the fields that the conditions of a table's own scope name. -/
def loadNamed (t : Table) (p : Plan) : List Condition → Plan
  | [] => p
  | .preload _ fields :: rest => loadNamed t (p.load t fields) rest
  | _ :: rest => loadNamed t p rest

/-- A join that loads and does not filter by itself keeps the rows without a match. -/
def joinKind (j : Join) : JoinKind :=
  if j.loads && !j.hasFilter then .left else .inner

/-- A join as it is written, with the guard against deleted rows. -/
def plannedJoin (parent : Table) (j : Join) : PlannedJoin :=
  let table := parent.reach j.relation
  let guard :=
    match table.liveness? (fun mark => j.conditions.any (·.affects mark)) with
    | some live => " AND " ++ live
    | none => ""
  ⟨joinKind j, j.relation.target.table, table.aliasName, parent.keyEquality j.relation ++ guard⟩

/-- Adds a join with what it loads. Rows below a joined table are reached through the rows of that
table, which are then loaded too. -/
def addJoin (p : Plan) (parent : Table) (j : Join) : Plan :=
  let table := parent.reach j.relation
  let p := { p with joins := p.joins ++ [plannedJoin parent j], tables := p.tables ++ [table] }
  let p := if j.loads && !parent.isRoot then p.load parent parent.entity.fields else p
  let p := if j.load then p.load table j.relation.target.fields else p
  loadNamed table p j.conditions

mutual

/-- Adds a collection and, below it, the relations that its joins follow. -/
def addCollection (p : Plan) (path : String) : Condition → Plan
  | .join r _ conditions =>
    let path := childPath path r.name
    addCollections { p with preloads := p.preloads ++ [.collection r.target.name path] } path
      conditions
  | _ => p

def addCollections (p : Plan) (path : String) : List Condition → Plan
  | [] => p
  | c :: rest => addCollections (addCollection p path c) path rest

end

mutual

/-- Adds the joins and preloads of one condition in the scope of a table. -/
def addCondition (parent : Table) (path : String) (p : Plan) : Condition → Plan
  | .join r load conditions =>
    addConditions (parent.reach r) (childPath path r.name) (p.addJoin parent ⟨r, load, conditions⟩)
      conditions
  | .collection r nested =>
    let path := childPath path r.name
    addCollections { p with preloads := p.preloads ++ [.collection r.target.name path] } path nested
  | .filter _ => p
  | .preload _ _ => p

def addConditions (parent : Table) (path : String) (p : Plan) : List Condition → Plan
  | [] => p
  | c :: rest => addConditions parent path (addCondition parent path p c) rest

end

def ofConditions (d : Dialect) (root : Entity) (conditions : List Condition) : Plan :=
  addConditions (.root root) "" (start d root) conditions

/-- The tables of a model, in the order in which they were joined. -/
def tablesOf (p : Plan) (m : Model) : List Table :=
  p.tables.filter (fun t => t.entity.toModel == m)

/-- The name of the table that a field refers to. A model that is not joined goes by its table's own
name. -/
def aliasFor (p : Plan) (f : Field) : Except QueryError String :=
  let candidates := p.tablesOf f.model
  match candidates, f.appearance with
  | [], _ => .ok f.model.table
  | [t], none => .ok t.aliasName
  | _, none => .error (.ambiguousModel f.model.name candidates.length)
  | _, some appearance =>
    match candidates[appearance]? with
    | some t => .ok t.aliasName
    | none => .error (.appearanceOutOfRange f.model.name appearance candidates.length)

end Plan
end Joinery
