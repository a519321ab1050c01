import Joinery.Text.Blank

/-! The SQL engines that statements are compiled for. -/
namespace Joinery

inductive Dialect where
  | postgres
  | mysql
  | sqlite
  | sqlserver
deriving DecidableEq, Repr

namespace Dialect

def all : List Dialect :=
  [.postgres, .mysql, .sqlite, .sqlserver]

theorem mem_all (d : Dialect) : d ∈ all := by
  cases d <;> decide

def name : Dialect → String
  | .postgres => "postgres"
  | .mysql => "mysql"
  | .sqlite => "sqlite"
  | .sqlserver => "sqlserver"

def ofName? (s : String) : Option Dialect :=
  all.find? (fun d => d.name == s)

@[simp] theorem ofName?_name (d : Dialect) : ofName? d.name = some d := by
  cases d <;> decide

/-- A name as it is compared: without outer blanks, in lower case. -/
def folded (s : String) : String :=
  Text.lowerAscii (Text.trim s)

def spellings : List (String × Dialect) :=
  [("postgres", .postgres), ("postgresql", .postgres), ("psql", .postgres), ("mysql", .mysql),
    ("sqlite", .sqlite), ("sqlite3", .sqlite), ("sqlserver", .sqlserver), ("mssql", .sqlserver)]

/-- The dialect of a spelling in any case, blanks around it ignored. -/
def parse? (s : String) : Option Dialect :=
  spellings.lookup (folded s)

/-- The placeholder of the parameter `index`, counted from one. -/
def placeholder (d : Dialect) (index : Nat) : String :=
  match d with
  | .postgres => "$" ++ toString index
  | .sqlserver => "@p" ++ toString index
  | .mysql => "?"
  | .sqlite => "?"

def identifierQuote : Dialect → Char
  | .mysql => '\x60'
  | _ => '"'

def doubled (q : Char) : List Char → List Char
  | [] => []
  | c :: rest => if c = q then q :: q :: doubled q rest else c :: doubled q rest

def quote (d : Dialect) (ident : String) : String :=
  String.ofList (d.identifierQuote :: doubled d.identifierQuote ident.toList ++ [d.identifierQuote])

def backslashEscapes (d : Dialect) : Bool :=
  d == .mysql

end Dialect
end Joinery
