import Joinery.Disk.Basic

/-! Disks in memory: a tree of directories, whose root is the current directory.
What lies outside of the root is taken for empty directories. -/
namespace Joinery
namespace Disk

inductive Tree where
  /-- A file, with its text if it is one. -/
  | file (text? : Option String)
  | directory (entries : List (String × Tree))
deriving Repr

namespace Tree

def empty : Tree := .directory []

def entries : Tree → List (String × Tree)
  | .file _ => []
  | .directory entries => entries

def kind : Tree → Kind
  | .file _ => .file
  | .directory _ => .directory

/-- The tree with another at the end of names; the directories on the way are made. -/
def put (leaf : Tree) : List String → Tree → Tree
  | [], _ => leaf
  | name :: rest, t =>
    let inner := put leaf rest ((t.entries.lookup name).getD empty)
    .directory (t.entries.filter (·.1 != name) ++ [(name, inner)])

/-- What a path leads to from a directory; `above` are the directories around it, the nearest
first. -/
def walk (above : List Tree) (here : Tree) : List String → Except ReadError Tree
  | [] => .ok here
  | part :: rest =>
    match here with
    | .file _ => .error .notDirectory
    | .directory entries =>
      if Path.partIsSilent part then walk above here rest
      else if part == ".." then
        match above with
        | [] => walk [] empty rest
        | outer :: above => walk above outer rest
      else
        match entries.lookup part with
        | some inner => walk (here :: above) inner rest
        | none => .error .missing

def find (t : Tree) (p : Path) : Except ReadError Tree :=
  if p.text.isEmpty then .error .missing
  else if p.isAbsolute then walk [] empty p.parts
  else walk [] t p.parts

def insertSorted (name : String) : List String → List String
  | [] => [name]
  | n :: rest => if name < n then name :: n :: rest else n :: insertSorted name rest

def namesIn (t : Tree) : List String :=
  (t.entries.map Prod.fst).foldr insertSorted []

def disk (t : Tree) : Disk Id where
  kind? p := (t.find p).toOption.map kind
  names p :=
    match t.find p with
    | .ok (.directory entries) => .ok (namesIn (.directory entries))
    | .ok (.file _) => .error .notDirectory
    | .error e => .error e
  read p :=
    match t.find p with
    | .ok (.file (some text)) => .ok text
    | .ok (.file none) => .error .notText
    | .ok (.directory _) => .error .isDirectory
    | .error e => .error e

end Tree
end Disk
end Joinery
