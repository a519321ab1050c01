import Joinery.Disk.Basic
import Joinery.Json
import Joinery.Lint.Analysis

/-! What a lint run reports: diagnostics of files, and files that could not be analyzed. -/
namespace Joinery
namespace Lint

structure Diagnostic where
  file : Disk.Path
  position : Position
  model : String
deriving DecidableEq, Repr

namespace Diagnostic

def code : String := "J001"

def message (d : Diagnostic) : String :=
  d.model ++ " is not joined by the query"

def line (d : Diagnostic) (severity : String) : String :=
  d.file.text ++ ":" ++ d.position.text ++ ": " ++ severity ++ d.message ++ " [" ++ code ++ "]"

def text (d : Diagnostic) : String :=
  d.line ""

def json (d : Diagnostic) : Json :=
  .object [("file", .text d.file.text), ("line", .number (toString d.position.line)),
    ("column", .number (toString d.position.column)), ("code", .text code),
    ("model", .text d.model), ("message", .text d.message)]

/-- Whether a diagnostic stands before another or beside it: by file, then by position. -/
def le (d e : Diagnostic) : Bool :=
  if d.file.same e.file then !e.position.before d.position else d.file.le e.file

end Diagnostic

inductive FileError where
  | unreadable (file : Disk.Path) (cause : Disk.ReadError)
  | malformed (file : Disk.Path)
deriving DecidableEq, Repr

namespace FileError

def file : FileError → Disk.Path
  | .unreadable file _ => file
  | .malformed file => file

def message : FileError → String
  | .unreadable file cause => "failed to read " ++ file.text ++ ": " ++ cause.message
  | .malformed file => "failed to parse " ++ file.text

def json (e : FileError) : Json :=
  .object [("file", .text e.file.text), ("message", .text e.message)]

end FileError
end Lint
end Joinery
