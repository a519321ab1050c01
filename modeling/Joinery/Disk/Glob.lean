import Joinery.Disk.Basic
import Joinery.Text.Quoted

/-! Wildcard patterns for paths, and the search for the paths that they match. -/
namespace Joinery
namespace Disk
namespace Glob

inductive Piece where
  | char (c : Char)
  | anyChar
  | anyText
  /-- Any directories below one another; always a whole component. -/
  | anyDepth
  /-- A character in some of the ranges, or in none of them. -/
  | range (negated : Bool) (ranges : List (Char × Char))
deriving DecidableEq, Repr

abbrev Pattern := List Piece

inductive Fault where
  | stars
  | depth
  | range
deriving DecidableEq, Repr

def Fault.message : Fault → String
  | .stars => "wildcards are either regular \x60*\x60 or recursive \x60**\x60"
  | .depth => "recursive wildcards must form a single path component"
  | .range => "invalid range pattern"

/-- Why a text is no pattern, and near which character. -/
structure PatternError where
  position : Nat
  fault : Fault
deriving DecidableEq, Repr

def PatternError.message (e : PatternError) : String :=
  "Pattern syntax error near position " ++ toString e.position ++ ": " ++ e.fault.message

/-- Characters and ranges between brackets. -/
def rangesOf : List Char → List (Char × Char)
  | a :: '-' :: b :: rest => (a, b) :: rangesOf rest
  | a :: rest => (a, a) :: rangesOf rest
  | [] => []

/-- A range after its opening bracket: it holds at least one character, which may be a bracket. -/
def range? : List Char → Option (Piece × List Char)
  | '!' :: first :: rest => closed true first rest
  | '!' :: [] => none
  | first :: rest => closed false first rest
  | [] => none
where
  closed (negated : Bool) (first : Char) (rest : List Char) : Option (Piece × List Char) :=
    match rest.dropWhile (· != ']') with
    | _ :: after => some (.range negated (rangesOf (first :: rest.takeWhile (· != ']'))), after)
    | [] => none

/-- The pieces of a pattern from a character on; `opens` tells whether a component begins there. -/
def piecesFrom : Nat → Nat → Bool → List Char → Except PatternError Pattern
  | 0, _, _, _ => .ok []
  | _ + 1, _, _, [] => .ok []
  | fuel + 1, i, opens, c :: rest =>
    if c = '?' then (piecesFrom fuel (i + 1) false rest).map (.anyChar :: ·)
    else if c = '[' then
      match range? rest with
      | some (piece, after) =>
        (piecesFrom fuel (i + 1 + (rest.length - after.length)) false after).map (piece :: ·)
      | none => .error ⟨i, .range⟩
    else if c = '*' then
      let stars := 1 + (rest.takeWhile (· == '*')).length
      let after := rest.dropWhile (· == '*')
      if stars = 1 then (piecesFrom fuel (i + 1) false after).map (.anyText :: ·)
      else if 2 < stars then .error ⟨i + 2, .stars⟩
      else if !opens then .error ⟨i - 1, .depth⟩
      else
        match after with
        | [] => .ok [.anyDepth]
        | d :: after =>
          if d = '/' then (piecesFrom fuel (i + 3) true after).map (.anyDepth :: ·)
          else .error ⟨i + 2, .depth⟩
    else (piecesFrom fuel (i + 1) (c == '/') rest).map (.char c :: ·)

def pattern (text : String) : Except PatternError Pattern :=
  piecesFrom (text.length + 1) 0 true text.toList

def Piece.admits : Piece → Char → Bool
  | .char d, c => c == d
  | .anyChar, _ => true
  | .anyText, _ => true
  | .anyDepth, _ => true
  | .range negated ranges, c =>
    negated != ranges.any fun (a, b) => decide (a ≤ c) && decide (c ≤ b)

/-- Whether a pattern of one component matches a name. -/
def accepts : Pattern → List Char → Bool
  | [], cs => cs.isEmpty
  | .anyText :: ps, [] => accepts ps []
  | .anyText :: ps, c :: cs => accepts ps (c :: cs) || accepts (.anyText :: ps) cs
  | _ :: _, [] => false
  | p :: ps, c :: cs => p.admits c && accepts ps cs
termination_by ps cs => (ps.length, cs.length)

def Piece.char? : Piece → Option Char
  | .char c => some c
  | _ => none

def literal? (ps : Pattern) : Option String :=
  (ps.mapM Piece.char?).map String.ofList

def isDeep (ps : Pattern) : Bool :=
  ps == [.anyDepth]

structure SearchError where
  directory : Path
  cause : ReadError
deriving DecidableEq, Repr

def SearchError.message (e : SearchError) : String :=
  "attempting to read \x60" ++ e.directory.text ++ "\x60 resulted in an error: " ++ e.cause.message

section Search

variable {m : Type → Type} [Monad m]

/-- What is searched for below a directory; `bare` tells whether files count too. -/
structure Search (m : Type → Type) where
  disk : Disk m
  bare : Bool

abbrev Found (m : Type → Type) := ExceptT SearchError m (List Path)

/-- A path in a directory; the current directory is not written. -/
def inside (directory : Path) (name : String) : Path :=
  if directory.same ⟨"."⟩ then ⟨name⟩ else directory.join ⟨name⟩

def Search.keep (s : Search m) (p : Path) : Found m := do
  if s.bare || (← s.disk.isDirectory p) then return [p] else return []

/-- A name against the first of the components, and what lies below against the others. -/
def Search.named (s : Search m) (below : List Pattern → Path → Found m) (p : Path)
    (name : String) : List Pattern → Found m
  | [] => return []
  | first :: rest => do
    if !accepts first name.toList then return []
    else if rest.isEmpty then s.keep p
    else below rest p

/-- An entry of a directory. A component for any depth also matches what lies deeper, which comes
last. -/
def Search.entry (s : Search m) (below : List Pattern → Path → Found m) (p : Path)
    (name : String) : List Pattern → Found m
  | [] => return []
  | first :: rest => do
    if isDeep first then
      let others := rest.dropWhile isDeep
      let directory ← s.disk.isDirectory p
      let here ← if others.isEmpty then (if directory then pure [p] else pure [])
        else s.named below p name others
      let deeper ← if directory then below (first :: others) p else pure []
      return here ++ deeper
    else s.named below p name (first :: rest)

/-- The paths below a directory that match the components. A component without wildcards is looked
up, and the others are tried on all entries. -/
def Search.below (s : Search m) : Nat → List Pattern → Path → Found m
  | 0, _, _ => return []
  | _ + 1, [], _ => return []
  | depth + 1, first :: rest, directory => do
    let found (p : Path) : Found m :=
      if rest.isEmpty then s.keep p else s.below depth rest p
    match literal? first with
    | some name =>
      let p := inside directory name
      let known ← if name == "." || name == ".." then s.disk.isDirectory directory
        else pure (← s.disk.kind? p).isSome
      if known then found p else return []
    | none =>
      if !(← s.disk.isDirectory directory) then return []
      let names ← match ← s.disk.names directory with
        | .ok names => pure names
        | .error cause => throw ⟨directory, cause⟩
      let special := ["..", "."].filter fun name =>
        first.head? == some (.char '.') && accepts first name.toList
      let around ← special.mapM fun name => found (directory.join ⟨name⟩)
      let entries ← names.mapM fun name =>
        s.entry (s.below depth) (inside directory name) name (first :: rest)
      return around.flatten ++ entries.flatten

/-- No path has more characters, and so none more components. -/
def depthLimit : Nat := 4096

def components (text : String) : List String :=
  let parts := Path.split [] text.toList
  if parts.getLast? == some "" then parts.dropLast else parts

inductive Error where
  | invalid (pattern : String) (cause : PatternError)
  | unreadable (pattern : String) (cause : SearchError)
deriving DecidableEq, Repr

def Error.message : Error → String
  | .invalid pattern cause => "invalid glob " ++ Text.quoted pattern ++ ": " ++ cause.message
  | .unreadable pattern cause =>
    "failed to read " ++ Text.quoted pattern ++ ": " ++ cause.message

/-- The components of a valid pattern below where its search begins. -/
def plan (text : String) : Except PatternError (List Pattern × Path) := do
  let _ ← pattern text
  let rooted := text.toList.head? == some '/'
  let inner := if rooted then String.ofList (text.toList.drop 1) else text
  let patterns ← (components inner).mapM pattern
  let patterns := if inner.isEmpty then patterns ++ [[]] else patterns
  return (patterns, if rooted then ⟨"/"⟩ else ⟨"."⟩)

/-- The files that match a pattern. -/
def files (disk : Disk m) (text : String) : m (Except Error (List Path)) := do
  match plan text with
  | .error e => return .error (.invalid text e)
  | .ok (patterns, start) =>
    let s : Search m := ⟨disk, text.toList.getLast? != some '/'⟩
    match ← (s.below depthLimit patterns start).run with
    | .error e => return .error (.unreadable text e)
    | .ok paths => return .ok (← paths.filterM disk.isFile)

end Search
end Glob
end Disk
end Joinery
