import Joinery.Function
import Joinery.Json
import Joinery.Operator

/-! The catalog of operators and functions, with their forms on the dialects. -/
namespace Joinery
namespace Command

structure CatalogEntry where
  name : String
  arity : String
  /-- The forms on the dialects that have one. -/
  forms : List (Dialect × String)
deriving DecidableEq, Repr

namespace CatalogEntry

def operatorForm? (o : Operator) (d : Dialect) : Option String :=
  (o.resolve d).toOption.map fun token => if o.negatedOn d then "NOT " ++ token else token

/-- The form of a function of a column `col`. -/
def functionForm? (f : Function) (d : Dialect) : Option String :=
  (f.resolve d).toOption.map fun strategy => strategy.apply "col" f.arity

def formsOn (dialects : List Dialect) (form? : Dialect → Option String) :
    List (Dialect × String) :=
  dialects.filterMap fun d => (form? d).map (d, ·)

def ofOperator (dialects : List Dialect) (o : Operator) : CatalogEntry :=
  ⟨o.name, o.arity.text, formsOn dialects (operatorForm? o)⟩

def ofFunction (dialects : List Dialect) (f : Function) : CatalogEntry :=
  ⟨f.name, (Arity.exactly f.arity).text, formsOn dialects (functionForm? f)⟩

def isSupported (e : CatalogEntry) : Bool :=
  !e.forms.isEmpty

/-- The members of the entry; dialects stand in the order of their names. -/
def json (e : CatalogEntry) : Json :=
  let forms := e.forms.mergeSort fun a b => decide (a.1.name ≤ b.1.name)
  .object [("arity", .text e.arity), ("name", .text e.name),
    ("sql", .object (forms.map fun (d, form) => (d.name, .text form)))]

end CatalogEntry

/-- The operators and functions that some of the dialects have. -/
structure Catalog where
  dialects : List Dialect
  operators : List CatalogEntry
  functions : List CatalogEntry
deriving DecidableEq, Repr

namespace Catalog

def ofDialects (dialects : List Dialect) : Catalog where
  dialects := dialects
  operators := (Operator.all.map (.ofOperator dialects)).filter CatalogEntry.isSupported
  functions := (Function.all.map (.ofFunction dialects)).filter CatalogEntry.isSupported

/-- A cell of a table: two blanks in front, and blanks behind the text up to a width. -/
def cell (width : Nat) (s : String) : String :=
  "  " ++ s ++ String.ofList (List.replicate (width - s.length) ' ')

def formWidth : Nat := 16

def nameWidth (entries : List CatalogEntry) : Nat :=
  (entries.map fun e => e.name.length).foldl max 4

def row (width : Nat) (name : String) (forms : List String) : String :=
  cell width name ++ String.join (forms.map (cell formWidth)) ++ "\n"

def table (title : String) (dialects : List Dialect) (entries : List CatalogEntry) : String :=
  let width := nameWidth entries
  let rows := entries.map fun e =>
    row width e.name (dialects.map fun d => (e.forms.lookup d).getD "-")
  title ++ "\n" ++ row width "name" (dialects.map Dialect.name) ++ String.join rows

def text (c : Catalog) : String :=
  table "Operators" c.dialects c.operators ++ "\n" ++ table "Functions" c.dialects c.functions

def json (c : Catalog) : Json :=
  .object [("functions", .array (c.functions.map CatalogEntry.json)),
    ("operators", .array (c.operators.map CatalogEntry.json))]

end Catalog
end Command
end Joinery
