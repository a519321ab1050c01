import Joinery.Dialect
import Joinery.Disk.Path

/-! Requests to the program, and the arguments that make them.
There are two: to lint files, and to list the catalog of operators and functions. -/
namespace Joinery
namespace Command

inductive Format where
  | text
  | json
deriving DecidableEq, Repr

def Format.parse? : String → Option Format
  | "text" => some .text
  | "json" => some .json
  | _ => none

structure LintRequest where
  /-- Files, and directories to search; without any, the settings say what to analyze. -/
  paths : List Disk.Path
  /-- The file of the settings, which may be missing. -/
  settings : Disk.Path
  format : Format
  denyWarnings : Bool
deriving DecidableEq, Repr

structure CatalogRequest where
  /-- The only dialect to list. -/
  dialect? : Option Dialect
  format : Format
deriving DecidableEq, Repr

inductive Request where
  | lint (r : LintRequest)
  | catalog (r : CatalogRequest)
deriving DecidableEq, Repr

inductive Argument where
  | flag (name : String)
  | option (name value : String)
  | value (text : String)
deriving DecidableEq, Repr

namespace Argument

def isOption (s : String) : Bool :=
  s.length > 1 && s.toList.head? == some '-'

/-- The items of a list. The named options take a value, either after an equals sign or as the next
argument; two hyphens end the options. -/
def ofList? (options : List String) : List String → Option (List Argument)
  | [] => some []
  | arg :: rest =>
    let name := String.ofList (arg.toList.takeWhile (· != '='))
    let attached := arg.toList.drop name.length
    if arg == "" then none
    else if arg == "--" then some (rest.map .value)
    else if !isOption arg then (ofList? options rest).map (.value arg :: ·)
    else if !options.contains name then (ofList? options rest).map (.flag arg :: ·)
    else if 1 < attached.length then
      (ofList? options rest).map (.option name (String.ofList (attached.drop 1)) :: ·)
    else
      match attached, rest with
      | [], next :: rest =>
        if next == "" || isOption next then none
        else (ofList? options rest).map (.option name next :: ·)
      | _, _ => none

end Argument

/-- The flags that ask for more to be logged, which changes no answer. -/
def isVerbose (s : String) : Bool :=
  s == "-v" || s == "--verbose"

namespace LintRequest

def default : LintRequest :=
  ⟨[], ⟨"cql.toml"⟩, .text, false⟩

def add (r : LintRequest) : Argument → Option LintRequest
  | .value path => some { r with paths := r.paths ++ [⟨path⟩] }
  | .flag "--deny-warnings" => some { r with denyWarnings := true }
  | .flag s => if isVerbose s then some r else none
  | .option "--config" path => some { r with settings := ⟨path⟩ }
  | .option "--format" name => (Format.parse? name).map fun format => { r with format := format }
  | .option _ _ => none

def parse? (args : List String) : Option LintRequest := do
  (← Argument.ofList? ["--config", "--format"] args).foldlM add default

end LintRequest

namespace CatalogRequest

def default : CatalogRequest :=
  ⟨none, .text⟩

def add (r : CatalogRequest) : Argument → Option CatalogRequest
  | .value _ => none
  | .flag s => if isVerbose s then some r else none
  | .option "--dialect" name => (Dialect.parse? name).map fun d => { r with dialect? := some d }
  | .option "--format" name => (Format.parse? name).map fun format => { r with format := format }
  | .option _ _ => none

def parse? (args : List String) : Option CatalogRequest := do
  (← Argument.ofList? ["--dialect", "--format"] args).foldlM add default

end CatalogRequest

namespace Request

def parse? (args : List String) : Option Request :=
  match args.dropWhile isVerbose with
  | "lint" :: rest => (LintRequest.parse? rest).map .lint
  | "operators" :: rest => (CatalogRequest.parse? rest).map .catalog
  | _ => none

end Request
end Command
end Joinery
