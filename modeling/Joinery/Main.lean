import Joinery.Command.Answer

/-! The program on the disk of the machine. It ends with 0, with 1 if its answer is a failure, and with
2 if its arguments make no request. -/
namespace Joinery
namespace Machine

def readError : IO.Error → Disk.ReadError
  | .noFileOrDirectory _ _ _ => .missing
  | .inappropriateType _ _ reason =>
    if reason.toLower == "is a directory" then .isDirectory else .notDirectory
  | e => .other (toString e)

def kindOf : IO.FS.FileType → Disk.Kind
  | .file => .file
  | .dir => .directory
  | _ => .other

def kind? (p : Disk.Path) : IO (Option Disk.Kind) := do
  try
    let there ← IO.FS.realPath p.text
    return some (kindOf (← there.metadata).type)
  catch _ => return none

def names (p : Disk.Path) : IO (Except Disk.ReadError (List String)) := do
  try
    let there ← IO.FS.realPath p.text
    let entries ← there.readDir
    return .ok ((entries.toList.map fun e => e.fileName).mergeSort fun a b => decide (a ≤ b))
  catch e => return .error (readError e)

def read (p : Disk.Path) : IO (Except Disk.ReadError String) := do
  try
    match String.fromUTF8? (← IO.FS.readBinFile p.text) with
    | some text => return .ok text
    | none => return .error .notText
  catch e => return .error (readError e)

def disk : Disk IO := ⟨kind?, names, read⟩

def usage : String :=
  "usage: joinery lint [PATHS] [--config FILE] [--format text|json] [--deny-warnings]\n"
    ++ "       joinery operators [--dialect NAME] [--format text|json]"

def run (args : List String) : IO UInt32 := do
  match Command.Request.parse? args with
  | none =>
    IO.eprintln usage
    return 2
  | some r =>
    let a ← r.answer disk
    IO.print a.output
    match a.failure? with
    | none => return 0
    | some reason =>
      IO.eprintln reason
      return 1

end Machine
end Joinery

def main (args : List String) : IO UInt32 :=
  Joinery.Machine.run args
