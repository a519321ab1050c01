import Joinery.Toml.Quoted
import Joinery.Toml.Scalar

/-! TOML documents. A document is a list of lines; each line names a table or adds a value to the table
that was named last. -/
namespace Joinery
namespace Toml

abbrev Reader := StateT (List Char) Option

namespace Reader

variable {α : Type}

def sees (s : String) : Reader Bool := do
  return s.toList.isPrefixOf (← get)

def takeIf (s : String) : Reader Bool := do
  if ← sees s then
    modify (List.drop s.length)
    return true
  else return false

def take (s : String) : Reader Unit := do
  if ← takeIf s then return () else failure

def run (p : Char → Bool) : Reader (List Char) := do
  let cs := (← get).takeWhile p
  modify (List.drop cs.length)
  return cs

def blanks : Reader Unit := do
  let _ ← run Quoted.isBlank

/-- A comment may hold no control characters. -/
def comment : Reader Unit := do
  if ← sees "#" then
    let _ ← run Quoted.isPlain

def restOfLine : Reader Unit := do
  blanks
  comment
  if (← get).isEmpty then return ()
  take "\n"

/-- What follows blanks, comments and line ends. -/
def afterGap (inComment : Bool) : List Char → List Char
  | [] => []
  | c :: rest =>
    if c = '\n' then afterGap false rest
    else if inComment && Quoted.isPlain c then afterGap true rest
    else if !inComment && c == '#' then afterGap true rest
    else if !inComment && Quoted.isBlank c then afterGap false rest
    else c :: rest

def gap : Reader Unit :=
  modify (afterGap false)

/-- Items with commas between them, up to a closing bracket; a comma may follow the last too. -/
def itemsUpTo (closing : String) (item : Reader α) : Nat → Reader (List α)
  | 0 => failure
  | fuel + 1 => do
    gap
    if ← takeIf closing then return []
    let first ← item
    gap
    if ← takeIf closing then return [first]
    take ","
    return first :: (← itemsUpTo closing item fuel)

def items (closing : String) (item : Reader α) : Reader (List α) := do
  itemsUpTo closing item ((← get).length + 1)

/-! Keys -/

def isBare (c : Char) : Bool :=
  c.isAlphanum || c == '_' || c == '-'

def key : Reader String := do
  if ← takeIf "\"" then fun cs => Quoted.short? '"' cs
  else if ← takeIf "'" then fun cs => Quoted.short? '\'' cs
  else
    let cs ← run isBare
    if cs.isEmpty then failure
    return String.ofList cs

def keysUpTo : Nat → Reader (List String)
  | 0 => failure
  | limit + 1 => do
    blanks
    let first ← key
    blanks
    if ← takeIf "." then return first :: (← keysUpTo limit)
    return [first]

/-- The most brackets around a value, and the most parts of a key. -/
def limit : Nat := 80

def keys : Reader (List String) :=
  keysUpTo limit

/-! Values -/

def text : Reader String := do
  if ← takeIf "\"\"\"" then fun cs => Quoted.long? '"' cs
  else if ← takeIf "'''" then fun cs => Quoted.long? '\'' cs
  else if ← takeIf "\"" then fun cs => Quoted.short? '"' cs
  else
    take "'"
    fun cs => Quoted.short? '\'' cs

def plain : Reader Toml := do
  if (← sees "\"") || (← sees "'") then return .text (← text)
  fun cs => Scalar.read? cs

def entry (value : Reader α) : Reader (List String × α) := do
  let ks ← keys
  take "="
  blanks
  return (ks, ← value)

def addAll (added : List (List String × Toml)) : Option Entries :=
  added.foldlM (fun es (ks, v) => addValue v ks es) []

/-- A value with at most so many brackets around one another. -/
def value : Nat → Reader Toml
  | 0 => plain
  | brackets + 1 => do
    if ← takeIf "[" then return .array (← items "]" (value brackets))
    else if ← takeIf "\x7b" then
      return .table .braces (← addAll (← items "\x7d" (entry (value brackets))))
    else plain

end Reader

/-! Lines -/

inductive Line where
  | empty
  | header (keys : List String)
  /-- The header of one more table of its name. -/
  | element (keys : List String)
  | entry (keys : List String) (v : Toml)
deriving Repr

namespace Line

def read : Reader Line := do
  Reader.blanks
  if ← Reader.takeIf "[[" then
    let ks ← Reader.keys
    Reader.take "]]"
    return .element ks
  else if ← Reader.takeIf "[" then
    let ks ← Reader.keys
    Reader.take "]"
    return .header ks
  else
    match (← get).head? with
    | none | some '\n' | some '#' => return .empty
    | some _ =>
      let (ks, v) ← Reader.entry (Reader.value Reader.limit)
      return .entry ks v

/-- All lines of a text; every line but the last takes a character. -/
def readAll : Nat → Reader (List Line)
  | 0 => failure
  | fuel + 1 => do
    if (← get).isEmpty then return []
    let first ← read
    Reader.restOfLine
    return first :: (← readAll fuel)

end Line

/-- The tables of a document so far, and the keys of the one that was named last. -/
structure Document where
  current : List String
  entries : Entries
deriving Repr

namespace Document

def empty : Document := ⟨[], []⟩

def named (add : String → Entries → Option Entries) (keys : List String) (d : Document) :
    Option Document := do
  let last ← keys.getLast?
  return ⟨keys, ← under (add last) keys.dropLast d.entries⟩

def add (d : Document) : Line → Option Document
  | .empty => some d
  | .header keys => d.named addTable keys
  | .element keys => d.named addElement keys
  | .entry keys v => do
    return { d with entries := ← under (addValue v keys) d.current d.entries }

/-- Line ends of one character; a mark of the encoding at the front is dropped. -/
def normalized : List Char → List Char
  | '\uFEFF' :: cs => lines cs
  | cs => lines cs
where
  lines : List Char → List Char
    | [] => []
    | '\r' :: '\n' :: rest => '\n' :: lines rest
    | c :: rest => c :: lines rest

end Document

def read? (s : String) : Option Entries := do
  let cs := Document.normalized s.toList
  let lines ← (Line.readAll (cs.length + 1)).run' cs
  return (← lines.foldlM Document.add Document.empty).entries

end Toml
end Joinery
