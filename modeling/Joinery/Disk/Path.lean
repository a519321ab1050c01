/-! Paths of files, with the order in which files are reported.
Paths are compared by their components, so that repeated slashes do not matter. -/
namespace Joinery
namespace Disk

structure Path where
  text : String
deriving DecidableEq, Repr

inductive Component where
  | root
  | current
  | parent
  | name (text : String)
deriving DecidableEq, Repr

namespace Component

/-- The place of the kind in the order, and the name. -/
def key : Component → Nat × String
  | .root => (0, "")
  | .current => (1, "")
  | .parent => (2, "")
  | .name text => (3, text)

/-- The order of lists of components: the first difference decides, and a beginning comes first. -/
def keysLe : List (Nat × String) → List (Nat × String) → Bool
  | [], _ => true
  | _ :: _, [] => false
  | (m, s) :: as, (n, t) :: bs =>
    decide (m < n) || (m == n && (decide (s < t) || (s == t && keysLe as bs)))

end Component

namespace Path

def split (part : List Char) : List Char → List String
  | [] => [String.ofList part.reverse]
  | c :: rest =>
    if c = '/' then String.ofList part.reverse :: split [] rest else split (c :: part) rest

def parts (p : Path) : List String :=
  split [] p.text.toList

def isAbsolute (p : Path) : Bool :=
  p.text.toList.head? == some '/'

/-- Empty parts stand for nothing, and neither does the current directory except at the front. -/
def partIsSilent (s : String) : Bool :=
  s.isEmpty || s == "."

def component (s : String) : Component :=
  if s == ".." then .parent else .name s

def components (p : Path) : List Component :=
  match p.parts with
  | [] => []
  | head :: rest =>
    let rest := (rest.filter (!partIsSilent ·)).map component
    if head.isEmpty then if p.isAbsolute then .root :: rest else rest
    else if head == "." then .current :: rest
    else component head :: rest

def keys (p : Path) : List (Nat × String) :=
  p.components.map Component.key

def le (p q : Path) : Bool :=
  Component.keysLe p.keys q.keys

def same (p q : Path) : Bool :=
  p.keys == q.keys

/-- The path inside another, unless it is absolute. -/
def join (p q : Path) : Path :=
  if q.isAbsolute || p.text.isEmpty then q
  else if p.text.toList.getLast? == some '/' then ⟨p.text ++ q.text⟩
  else ⟨p.text ++ "/" ++ q.text⟩

def withoutSilentEnd (parts : List String) : List String :=
  (parts.reverse.dropWhile partIsSilent).reverse

/-- The path without its last component; a path without any lies in the current directory. -/
def directory (p : Path) : Path :=
  match p.parts with
  | [] => ⟨"."⟩
  | head :: rest =>
    match withoutSilentEnd rest with
    | [] => if head.isEmpty then ⟨"."⟩ else ⟨""⟩
    | r :: rs =>
      match withoutSilentEnd (r :: rs).dropLast with
      | [] => if head.isEmpty then ⟨"/"⟩ else ⟨head⟩
      | rest => ⟨String.intercalate "/" (head :: rest)⟩

/-- Drops the paths that are the same as the one before them. -/
def onceEach : List Path → List Path
  | [] => []
  | p :: rest =>
    match onceEach rest with
    | [] => [p]
    | q :: rest => if p.same q then p :: rest else p :: q :: rest

def sorted (paths : List Path) : List Path :=
  onceEach (paths.mergeSort le)

end Path
end Disk
end Joinery
