import Joinery.Disk.Path

/-! Disks: what a run may ask about files.
The questions are answered in a monad, so that the same run works on a real disk and on a tree in
memory. -/
namespace Joinery
namespace Disk

inductive ReadError where
  | missing
  | notDirectory
  | isDirectory
  | notText
  /-- Any other reason, with its wording. -/
  | other (reason : String)
deriving DecidableEq, Repr

def ReadError.message : ReadError → String
  | .missing => "No such file or directory (os error 2)"
  | .notDirectory => "Not a directory (os error 20)"
  | .isDirectory => "Is a directory (os error 21)"
  | .notText => "stream did not contain valid UTF-8"
  | .other reason => reason

inductive Kind where
  | file
  | directory
  /-- A device, or anything else that is no regular file. -/
  | other
deriving DecidableEq, Repr

end Disk

/-- The questions about the files of a disk. -/
structure Disk (m : Type → Type) where
  kind? : Disk.Path → m (Option Disk.Kind)
  /-- The names in a directory, in their order. -/
  names : Disk.Path → m (Except Disk.ReadError (List String))
  read : Disk.Path → m (Except Disk.ReadError String)

namespace Disk

variable {m : Type → Type} [Monad m]

def isFile (disk : Disk m) (p : Path) : m Bool := do
  return (← disk.kind? p) == some .file

def isDirectory (disk : Disk m) (p : Path) : m Bool := do
  return (← disk.kind? p) == some .directory

end Disk
end Joinery
