import Joinery.Command.Catalog
import Joinery.Command.Request
import Joinery.Command.Settings
import Joinery.Lint.Report

/-! Answers to requests. -/
namespace Joinery
namespace Command

/-- What a run prints, and why it fails if it does. -/
structure Answer where
  output : String
  failure? : Option String
deriving DecidableEq, Repr

inductive LintError where
  | unreadableSettings (file : Disk.Path) (cause : Disk.ReadError)
  | invalidSettings (file : Disk.Path) (cause : Settings.Error)
  | search (cause : Disk.Glob.Error)
  | noFiles
deriving DecidableEq, Repr

def LintError.message : LintError → String
  | .unreadableSettings file cause =>
    "failed to read config file " ++ file.text ++ ": " ++ cause.message
  | .invalidSettings file cause =>
    "failed to parse config file " ++ file.text ++ ": " ++ cause.message
  | .search cause => cause.message
  | .noFiles => "no Rust files to lint (pass paths or set lint.include)"

def printed (format : Format) (text : String) (json : Json) : String :=
  match format with
  | .text => text
  | .json => json.pretty ++ "\n"

def CatalogRequest.answer (r : CatalogRequest) : Answer :=
  let c := Catalog.ofDialects (match r.dialect? with | some d => [d] | none => Dialect.all)
  ⟨printed r.format c.text c.json, none⟩

namespace LintRequest

variable {m : Type → Type} [Monad m]

/-- The settings, and the directory where their patterns begin. -/
def settingsOn (disk : Disk m) (r : LintRequest) :
    ExceptT LintError m (Settings × Disk.Path) := do
  if (← disk.kind? r.settings).isNone then return (Settings.default, ⟨"."⟩)
  match ← disk.read r.settings with
  | .error cause => throw (.unreadableSettings r.settings cause)
  | .ok text =>
    match Settings.parse text with
    | .error cause => throw (.invalidSettings r.settings cause)
    | .ok s => return (s, r.settings.directory)

def filesOf (disk : Disk m) (pattern : Disk.Path) : ExceptT LintError m (List Disk.Path) := do
  let found : Except Disk.Glob.Error (List Disk.Path) ← (Disk.Glob.files disk pattern.text : m _)
  match found with
  | .error cause => throw (.search cause)
  | .ok files => return files

/-- The files that a path names: those below a directory, or the path itself. -/
def filesAt (disk : Disk m) (path : Disk.Path) : ExceptT LintError m (List Disk.Path) := do
  if ← disk.isDirectory path then filesOf disk (path.join ⟨"**/*.rs"⟩) else return [path]

def files (disk : Disk m) (r : LintRequest) (s : Settings) (directory : Disk.Path) :
    ExceptT LintError m (List Disk.Path) := do
  let found ← if r.paths.isEmpty then
      s.patterns.mapM fun pattern => filesOf disk (directory.join ⟨pattern⟩)
    else r.paths.mapM (filesAt disk)
  return Disk.Path.sorted found.flatten

def report (disk : Disk m) (r : LintRequest) : ExceptT LintError m (Settings × Lint.Report) := do
  let (s, directory) ← r.settingsOn disk
  let files ← r.files disk s directory
  if files.isEmpty then throw .noFiles
  let report ← (Lint.analyzeFiles disk s.rules files : m _)
  return (s, report)

/-- The report is printed before it is denied. -/
def answer (disk : Disk m) (r : LintRequest) : m Answer := do
  match ← (r.report disk).run with
  | .error e => return ⟨"", some e.message⟩
  | .ok (s, report) =>
    let denied := (r.denyWarnings || s.denyWarnings) && !report.isClean
    return ⟨printed r.format report.text report.json,
      if denied then some ("lint failed: " ++ report.counts) else none⟩

end LintRequest

def Request.answer {m : Type → Type} [Monad m] (disk : Disk m) : Request → m Answer
  | .lint r => r.answer disk
  | .catalog r => return r.answer

end Command
end Joinery
