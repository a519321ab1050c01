import Joinery.Decimal.Binary64

/-! TOML values, and the ways in which the lines of a document add to its tables.
A table may be described in several places, but only as far as its origin allows. -/
namespace Joinery

/-- How a table comes about. -/
inductive Toml.Origin where
  /-- A header names it. -/
  | header
  /-- Headers name tables inside of it. -/
  | implied
  /-- Dotted keys lead through it. -/
  | dotted
  /-- It is written in braces. -/
  | braces
deriving DecidableEq, Repr

inductive Toml where
  | text (s : String)
  | integer (n : Int)
  | decimal (x : Binary64)
  | bool (b : Bool)
  /-- A date, a time of day or both, as it is written. -/
  | moment (written : String)
  | array (items : List Toml)
  /-- The tables that a repeated header names, in their order. -/
  | tables (elements : List (List (String × Toml)))
  | table (origin : Toml.Origin) (entries : List (String × Toml))
deriving Repr

namespace Toml

abbrev Entries := List (String × Toml)

def alter (key : String) (f : Option Toml → Option Toml) : Entries → Option Entries
  | [] => (f none).map fun v => [(key, v)]
  | (k, v) :: rest =>
    if k = key then (f (some v)).map fun v => (k, v) :: rest
    else (alter key f rest).map ((k, v) :: ·)

/-- Changes the last table of a list. -/
def alterLast (f : Entries → Option Entries) : List Entries → Option (List Entries)
  | [] => none
  | [es] => (f es).map fun es => [es]
  | es :: rest => (alterLast f rest).map (es :: ·)

/-- Changes the table to which the keys of a header lead; it and those on the way are implied if they
are absent, and of repeated tables the last one is meant. -/
def under (f : Entries → Option Entries) : List String → Entries → Option Entries
  | [], es => f es
  | key :: rest, es =>
    es |> alter key fun
      | none => (under f rest []).map (.table .implied)
      | some (.table .braces _) => none
      | some (.table origin inner) => (under f rest inner).map (.table origin)
      | some (.tables elements) => (alterLast (under f rest) elements).map .tables
      | some _ => none

/-- Adds a table under a header; an implied one may be described once. -/
def addTable (key : String) : Entries → Option Entries :=
  alter key fun
    | none => some (.table .header [])
    | some (.table .implied es) => some (.table .header es)
    | some _ => none

/-- Adds one more table under a repeated header. -/
def addElement (key : String) : Entries → Option Entries :=
  alter key fun
    | none => some (.tables [[]])
    | some (.tables elements) => some (.tables (elements ++ [[]]))
    | some _ => none

/-- Adds a value under dotted keys. The last table on the way has no other origin than such keys. -/
def addValue (v : Toml) : List String → Entries → Option Entries
  | [], _ => none
  | [key], es => es |> alter key fun
    | none => some v
    | some _ => none
  | key :: rest, es =>
    es |> alter key fun
      | none => (addValue v rest []).map (.table .dotted)
      | some (.table .dotted inner) => (addValue v rest inner).map (.table .dotted)
      | some (.table .implied inner) =>
        if rest.length = 1 then none else (addValue v rest inner).map (.table .implied)
      | some _ => none

mutual

def integers : Toml → List Int
  | .integer n => [n]
  | .array items => integersOfItems items
  | .tables elements => integersOfElements elements
  | .table _ es => integersOfEntries es
  | .text _ | .decimal _ | .bool _ | .moment _ => []

def integersOfItems : List Toml → List Int
  | [] => []
  | v :: rest => v.integers ++ integersOfItems rest

def integersOfElements : List (List (String × Toml)) → List Int
  | [] => []
  | es :: rest => integersOfEntries es ++ integersOfElements rest

def integersOfEntries : List (String × Toml) → List Int
  | [] => []
  | (_, v) :: rest => v.integers ++ integersOfEntries rest

end

end Toml
end Joinery
