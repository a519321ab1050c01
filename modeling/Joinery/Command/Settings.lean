import Joinery.Disk.Glob
import Joinery.Lint.Config
import Joinery.Toml.Document

/-! The settings of lint runs, and the files that hold them.
Keys without a meaning are ignored, and settings that a file does not give keep their defaults. -/
namespace Joinery
namespace Command

structure Settings where
  /-- The patterns of the files to analyze if a run names none. -/
  patterns : List String
  /-- Whether a run fails if it reports anything. -/
  denyWarnings : Bool
  rules : Lint.Config
deriving DecidableEq, Repr

namespace Settings

inductive Error where
  /-- It is no TOML, or a value is not of the kind of its key. -/
  | malformed
  | noQueryFunctions
  | invalidPattern (pattern : String) (cause : Disk.Glob.PatternError)
deriving DecidableEq, Repr

def Error.message : Error → String
  | .malformed => "TOML parse error"
  | .noQueryFunctions => "lint.query_functions must not be empty"
  | .invalidPattern pattern cause =>
    "invalid lint.include glob " ++ Text.quoted pattern ++ ": " ++ cause.message

def default : Settings where
  patterns := ["src/**/*.rs"]
  denyWarnings := false
  rules := Lint.Config.default

def bool? : Toml → Option Bool
  | .bool b => some b
  | _ => none

def text? : Toml → Option String
  | .text s => some s
  | _ => none

def texts? : Toml → Option (List String)
  | .array items => items.mapM text?
  | _ => none

/-- The entries of a table. A date stands for a table without any. -/
def entries? : Toml → Option Toml.Entries
  | .table _ es => some es
  | .moment _ => some []
  | _ => none

def aliases? (v : Toml) : Option (List (String × String)) := do
  (← entries? v).foldlM (fun aliases (relation, model) => do
    return Lint.Config.insertAlias relation (← text? model) aliases) []

def setRule (c : Lint.Config) (key : String) (v : Toml) : Option Lint.Config :=
  match key with
  | "query_functions" => (texts? v).map fun names => { c with queryFunctions := names }
  | "connector_functions" => (texts? v).map fun names => { c with connectorFunctions := names }
  | "order_methods" => (texts? v).map fun names => { c with orderMethods := names }
  | "set_methods" => (texts? v).map fun names => { c with setMethods := names }
  | "comparison_methods" => (texts? v).map fun names => { c with comparisonMethods := names }
  | "collection_methods" => (texts? v).map fun names => { c with collectionMethods := names }
  | "relation_aliases" => (aliases? v).map fun aliases => { c with relationAliases := aliases }
  | "models" => (texts? v).map fun names => { c with models := names }
  | _ => some c

def set (s : Settings) (key : String) (v : Toml) : Option Settings :=
  match key with
  | "include" => (texts? v).map fun patterns => { s with patterns := patterns }
  | "deny_warnings" => (bool? v).map fun deny => { s with denyWarnings := deny }
  | _ => (setRule s.rules key v).map fun rules => { s with rules := rules }

/-- Whether all integers in a value fit in so many bits, with a sign or without one. -/
def integersFit (bits : Nat) (v : Toml) : Bool :=
  v.integers.all fun n =>
    decide (-Int.ofNat (Nat.pow 2 (bits - 1)) ≤ n) && decide (n < Int.ofNat (Nat.pow 2 bits))

/-- The settings in a section. Its integers are to fit in one word. -/
def ofSection? (v : Toml) : Option Settings := do
  if integersFit 64 v then
    (← entries? v).foldlM (fun s (key, v) => s.set key v) default
  else none

/-- The settings in a document, whose other sections may hold integers of two words. -/
def ofEntries? (es : Toml.Entries) : Option Settings := do
  if es.all fun (_, v) => integersFit 128 v then
    match es.lookup "lint" with
    | some v => ofSection? v
    | none => some default
  else none

def checkPattern (pattern : String) : Except Error Unit :=
  match Disk.Glob.pattern pattern with
  | .ok _ => .ok ()
  | .error cause => .error (.invalidPattern pattern cause)

def check (s : Settings) : Except Error Unit := do
  if s.rules.queryFunctions.isEmpty then throw .noQueryFunctions
  s.patterns.forM checkPattern

def parse (text : String) : Except Error Settings := do
  match (Toml.read? text).bind ofEntries? with
  | none => throw .malformed
  | some s => do
    s.check
    return s

end Settings
end Command
end Joinery
