import Joinery.Function
import Joinery.Operator
import Joinery.Text.Words
import Joinery.Value

/-! Models, their fields, and the relations between them. -/
namespace Joinery

structure Model where
  name : String
  table : String
  primaryKey : String
  /-- The column that marks deleted rows; a row with a value in it is filtered out. -/
  deletedAt : Option String
deriving Repr

/-- Two models are the same when their names and tables are. -/
instance : BEq Model := ⟨fun a b => a.name == b.name && a.table == b.table⟩

/-- A function applied to a column, with its values. -/
structure FunctionCall where
  function : Function
  values : List Value
deriving Repr, BEq

/-- A field of a model, as it is used in a statement. -/
structure Field where
  model : Model
  name : String
  /-- The column, where it is not the field's name in snake case. -/
  column : Option String
  updatable : Bool
  nullable : Bool
  functions : List FunctionCall
  /-- Which of several joins of the model is meant, counted from zero. -/
  appearance : Option Nat
deriving Repr, BEq

namespace Field

def ofName (model : Model) (name : String) : Field :=
  ⟨model, name, none, true, false, [], none⟩

def columnName (f : Field) : String :=
  match f.column with
  | some column => column
  | none => Text.snakeCase f.name

def belongsTo (f : Field) (m : Model) : Bool :=
  f.model == m

def display (f : Field) : String :=
  f.model.name ++ "." ++ f.name

def apply (f : Field) (function : Function) (values : List Value) : Field :=
  { f with functions := f.functions ++ [⟨function, values⟩] }

end Field

structure Entity extends Model where
  fields : List Field
deriving Repr

/-- A relation of a model: rows of `target` whose foreign column equals the owner's local column. -/
structure Relation where
  owner : Model
  name : String
  target : Entity
  localColumn : String
  foreignColumn : String
deriving Repr

namespace Relation

/-- The relation as diagnostics name it. -/
def display (r : Relation) : String :=
  r.owner.name ++ "." ++ r.name

/-- Relations are compared by where they lead and how. -/
instance : BEq Relation := ⟨fun a b =>
  a.target.toModel == b.target.toModel && a.name == b.name && a.localColumn == b.localColumn
    && a.foreignColumn == b.foreignColumn⟩

end Relation
end Joinery
