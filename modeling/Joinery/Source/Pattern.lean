import Joinery.Source.TypeTerm

/-! Patterns, of which only the expressions inside them are kept. -/
namespace Joinery
namespace Source
namespace Form

def pathBeginning : Form := fun ts =>
  (name ts && (let after := next ts
    marks "::" after || marks "!" after || group .brace after || group .paren after ||
      marks ".." after)) ||
    (word "self" ts && marks "::" (next ts)) || marks "::" ts || marks "<" ts ||
    anyOf ["Self", "super", "crate"] ts

def bang : Form := fun ts => marks "!" ts && !marks "!=" ts

def bar : Form := fun ts => marks "|" ts && !marks "||" ts && !marks "|=" ts

end Form

inductive RangeMarks where
  | open
  | closed
deriving DecidableEq, Repr

namespace Reader

/-- The marks of a range; `obsolete` ones have three points. -/
def rangeMarks (obsolete : Bool) : Reader RangeMarks := do
  if ← takeIf "..=" then return .closed
  if ← sees (Form.marks "...") then
    if obsolete then
      take "..."
      return .closed
    else failure
  take ".."
  return .open

end Reader

namespace Grammar

variable (g : Grammar)

/-- The place of a range's end when the range has none. -/
def endsRange : Form := fun ts =>
  Form.ended ts || Form.marks "|" ts || Form.marks "=" ts || Form.colon ts || Form.marks "," ts ||
    Form.marks ";" ts || Form.word "if" ts

def rangeEnd : Reader (Option (List Expr)) := do
  let ts ← get
  if endsRange ts then return none
  if Form.literal ts then
    Reader.literal
    return some []
  let start ← Reader.position
  if Form.plainSegment ts || Form.marks "::" ts || Form.marks "<" ts then
    let p ← g.path true
    return some [.path p.segments p.generics p.inner start]
  Reader.keyword "const"
  let (attributes, inner) ← g.block
  return some [.other (attributes ++ inner) start]

def rangePattern (lower : List Expr) : Reader PatternTerm := do
  let marks ← Reader.rangeMarks true
  match marks, ← g.rangeEnd with
  | .closed, none => failure
  | .open, none => return ⟨true, lower⟩
  | _, some upper => return ⟨false, lower ++ upper⟩

def literalPattern : Reader PatternTerm := do
  match ← g.rangeEnd with
  | none => failure
  | some lower =>
    if ← Reader.sees (Form.marks "..") then g.rangePattern lower else return ⟨false, lower⟩

def alternatives : Reader PatternTerm := do
  let leading ← Reader.takeIf "|"
  let first ← g.pattern
  if leading || Form.bar (← get) then
    let rest ← Reader.collected do
      if Form.bar (← get) then
        Reader.take "|"
        return some (← g.inPattern)
      else return none
    return ⟨false, first.inner ++ rest⟩
  else return first

def inAlternatives : Reader (List Expr) := do
  return (← g.alternatives).inner

/-- A field of a structure; shorthands have no pattern of their own. -/
def fieldPattern : Reader (List Expr) := do
  let boxed ← Reader.keywordIf "box"
  let byRef ← Reader.keywordIf "ref"
  let mutable ← Reader.keywordIf "mut"
  let marked := boxed || byRef || mutable
  if !marked && (← Reader.placeIf) then
    Reader.take ":"
    g.inAlternatives
  else
    let _ ← Reader.name
    if !marked && (← Reader.takeIf ":") then g.inAlternatives else return []

def structPattern : Reader (List Expr) :=
  Reader.inside .brace (Reader.listed do
    let attributes ← g.outerAttributes
    if ← Reader.takeIf ".." then
      Reader.expect Form.ended
      return attributes
    else return attributes ++ (← g.fieldPattern))

def pathPattern : Reader PatternTerm := do
  let start ← Reader.position
  let p ← g.path true
  let ts ← get
  if Form.bang ts && p.isPlain then
    Reader.take "!"
    let _ ← Reader.anyGroup
    return ⟨false, []⟩
  else if Form.group .brace ts then return ⟨false, p.inner ++ (← g.structPattern)⟩
  else if Form.group .paren ts then
    return ⟨false, p.inner ++ (← Reader.inside .paren (Reader.listed g.inAlternatives))⟩
  else if Form.marks ".." ts then
    g.rangePattern [.path p.segments p.generics p.inner start]
  else return ⟨false, p.inner⟩

def namePattern : Reader PatternTerm := do
  let _ ← Reader.keywordIf "ref"
  let _ ← Reader.keywordIf "mut"
  if !(← Reader.keywordIf "self") then
    let _ ← Reader.name
  if ← Reader.takeIf "@" then return ⟨false, ← g.inPattern⟩ else return ⟨false, []⟩

/-- An element of a slice; ranges with one end have to stand in parentheses. -/
def sliceElement : Reader (List Expr) := do
  let p ← g.alternatives
  if p.halfOpen then failure else return p.inner

/-- Points alone, or a range without its lower end. -/
def openPattern : Reader PatternTerm := do
  let marks ← Reader.rangeMarks false
  match marks, ← g.rangeEnd with
  | .closed, none => failure
  | .open, none => return ⟨false, []⟩
  | _, some upper => return ⟨true, upper⟩

def singlePattern : Reader PatternTerm := do
  let ts ← get
  if Form.pathBeginning ts then g.pathPattern
  else if Form.word "_" ts then
    Reader.skip
    return ⟨false, []⟩
  else if Form.word "box" ts then
    Reader.skip
    let _ ← g.pattern
    return ⟨false, []⟩
  else if Form.marks "-" ts || Form.literal ts || Form.word "const" ts then g.literalPattern
  else if Form.name ts || Form.anyOf ["ref", "mut", "self"] ts then g.namePattern
  else if Form.marks "&" ts then
    Reader.take "&"
    let _ ← Reader.keywordIf "mut"
    return ⟨false, ← g.inPattern⟩
  else if Form.group .paren ts then
    return ⟨false, ← Reader.inside .paren (Reader.listed g.inAlternatives)⟩
  else if Form.group .square ts then
    return ⟨false, ← Reader.inside .square (Reader.listed g.sliceElement)⟩
  else if Form.marks ".." ts && !Form.marks "..." ts then g.openPattern
  else failure

end Grammar
end Source
end Joinery
