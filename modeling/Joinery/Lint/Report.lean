import Joinery.Lint.Diagnostic
import Joinery.Source.Statement

/-! The analysis of files. A file that fails is an error of its own and changes nothing for the
others. -/
namespace Joinery
namespace Lint

abbrev Outcome := Except FileError (List Diagnostic)

/-- The models that the statements of a file name; statements that cannot be followed name none. -/
def modelsOf (config : Config) (sites : List CallTree) : List String :=
  sites.flatMap fun t => ((Analyzer.ofConfig config).models t).toOption.getD []

/-- The findings in the statements of a file, each with the models of all statements known. -/
def findingsOf (config : Config) (sites : List CallTree) : List Finding :=
  let a := (Analyzer.ofConfig config).withKnown (modelsOf config sites)
  sites.flatMap fun t => (a.callSite t).toOption.getD []

def analyzeText (config : Config) (file : Disk.Path) (text : String) : Outcome :=
  match Source.callSites? config.queryFunctions text with
  | none => .error (.malformed file)
  | some sites => .ok ((findingsOf config sites).map fun f => ⟨file, f.position, f.model⟩)

def analyzeFile {m : Type → Type} [Monad m] (disk : Disk m) (config : Config) (file : Disk.Path) :
    m Outcome := do
  match ← disk.read file with
  | .ok text => return analyzeText config file text
  | .error cause => return .error (.unreadable file cause)

structure Report where
  files : Nat
  /-- By file, then by position. -/
  diagnostics : List Diagnostic
  /-- In the order of the files. -/
  errors : List FileError
deriving Repr

namespace Report

def diagnosticsOf : Outcome → List Diagnostic
  | .ok diagnostics => diagnostics
  | .error _ => []

def errorOf? : Outcome → Option FileError
  | .ok _ => none
  | .error e => some e

/-- The report on files with their outcomes. Diagnostics of one position keep their order. -/
def ofOutcomes (outcomes : List Outcome) : Report where
  files := outcomes.length
  diagnostics := (outcomes.flatMap diagnosticsOf).mergeSort Diagnostic.le
  errors := outcomes.filterMap errorOf?

def isClean (r : Report) : Bool :=
  r.diagnostics.isEmpty && r.errors.isEmpty

/-- The numbers of diagnostics and errors, in words. -/
def counts (r : Report) : String :=
  toString r.diagnostics.length ++ " diagnostic(s), " ++ toString r.errors.length
    ++ " file error(s)"

def text (r : Report) : String :=
  let diagnostics := r.diagnostics.map fun d => d.line "warning: "
  let errors := r.errors.map fun e => "error: " ++ e.message
  let summary := toString r.files ++ " file(s) checked, " ++ r.counts
  String.join ((diagnostics ++ errors ++ [summary]).map (· ++ "\n"))

def json (r : Report) : Json :=
  .object [("files", .number (toString r.files)),
    ("diagnostics", .array (r.diagnostics.map Diagnostic.json)),
    ("errors", .array (r.errors.map FileError.json))]

end Report

def analyzeFiles {m : Type → Type} [Monad m] (disk : Disk m) (config : Config)
    (files : List Disk.Path) : m Report := do
  return .ofOutcomes (← files.mapM (analyzeFile disk config))

end Lint
end Joinery
