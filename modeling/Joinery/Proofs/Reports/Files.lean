import Joinery.Disk.Tree
import Joinery.Lint.Report
import Joinery.Proofs.Reports.Sorting
import Mathlib.Data.List.Nodup
import Mathlib.Data.String.Basic

/-! Reports on files, in whatever order the files are given.
Diagnostics are in the order of a key, the components of the file and then the position. Different files have no
key in common, so that the order of the files decides nothing. -/
namespace Joinery

open Sorting

namespace Disk

open Component (keysLe)

namespace Path

/-- The place of a path in the order of files. -/
def rank (p : Path) : List (Nat ×ₗ String) :=
  p.keys.map toLex

end Path
end Disk

namespace Lint

def Position.rank (p : Position) : Nat ×ₗ Nat :=
  toLex (p.line, p.column)

namespace Diagnostic

def rank (d : Diagnostic) : List (Nat ×ₗ String) ×ₗ (Nat ×ₗ Nat) :=
  toLex (d.file.rank, d.position.rank)

end Diagnostic

/-! The diagnostics and errors of files. -/

variable {disk : Disk Id} {config : Config} {files : List Disk.Path} {file : Disk.Path}

def outcome (disk : Disk Id) (config : Config) (file : Disk.Path) : Outcome :=
  (analyzeFile disk config file).run

/-- What the analysis of a file finds; nothing if it fails. -/
def found (disk : Disk Id) (config : Config) (file : Disk.Path) : List Diagnostic :=
  Report.diagnosticsOf (outcome disk config file)

section Distinct

variable {files' : List Disk.Path}
  (hdistinct : (files.map Disk.Path.components).Nodup)

include hdistinct

end Distinct

end Lint
end Joinery
