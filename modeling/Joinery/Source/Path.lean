import Joinery.Source.Grammar

/-! Paths, with the arguments of their segments and the bounds that are made of them. -/
namespace Joinery
namespace Source

structure Path where
  /-- Begins with a type in angle brackets. -/
  qualified : Bool
  /-- Begins with colons. -/
  leading : Bool
  segments : List String
  /-- Some segment has arguments. -/
  argued : Bool
  /-- The last segment has arguments. -/
  closed : Bool
  /-- The last segment has arguments in parentheses. -/
  parenthesized : Bool
  /-- The type arguments of the last segment that are paths, by their last segments. -/
  generics : List String
  inner : List Expr
deriving Repr

namespace Path

def isPlain (p : Path) : Bool :=
  !p.qualified && !p.argued

def push (p q : Path) : Path where
  qualified := p.qualified
  leading := p.leading
  segments := p.segments ++ q.segments
  argued := p.argued || q.argued
  closed := q.closed
  parenthesized := q.parenthesized
  generics := q.generics
  inner := p.inner ++ q.inner

def ofName (name : String) : Path :=
  ⟨false, false, [name], false, false, false, [], []⟩

end Path

namespace Form

/-- Words that are segments without being names. -/
def specialSegment : Form := anyOf ["super", "self", "Self", "crate"]

def plainSegment : Form := fun ts => name ts || specialSegment ts

def callColons : Form := fun ts => marks "::" ts && group .paren (next (next ts))

def turbofish : Form := fun ts => marks "::" ts && marks "<" (next (next ts))

end Form

namespace Reader

def plainPath : Reader (List String) := do
  let _ ← takeIf "::"
  let step (segments : List String) : Reader (Option (List String)) := do
    if segments.isEmpty || (← takeIf "::") then
      expect Form.plainSegment
      return some (segments ++ [← anyWord])
    else return none
  iterated step []

end Reader

namespace Grammar

variable (g : Grammar)

/-- A literal or a block in the place of a type argument. -/
def constant : Reader (List Expr) := do
  let start ← Reader.position
  if ← Reader.sees Form.literal then
    Reader.literal
    return []
  else if ← Reader.sees Form.name then
    Reader.skip
    return []
  else return [.other (← Reader.inside .brace g.statements) start]

def output (plus : Bool) : Reader (List Expr) := do
  if ← Reader.takeIf "->" then return (← g.type plus).inner
  else return []

def signature : Reader (List Expr) := do
  let inputs ← Reader.inside .paren (Reader.listed g.inType)
  return inputs ++ (← g.output false)

def arguments : Reader (List String × List Expr) := do
  let _ ← Reader.takeIf "::"
  Reader.take "<"
  let argument : Reader (List (Option String × List Expr)) := do
    let ts ← get
    if Form.lifetime ts && !Form.marks "+" (Form.next ts) then
      Reader.lifetime
      return []
    if Form.literal ts || Form.group .brace ts then
      return [(none, ← g.constant)]
    let t ← g.type true
    if t.single then
      if ← Reader.takeIf "=" then
        let ts ← get
        if Form.literal ts || Form.group .brace ts then
          return [(none, t.inner ++ (← g.constant))]
        else return [(none, t.inner ++ (← g.inType))]
      if ← Reader.takeIf ":" then
        let stop : Form := fun ts => Form.marks "," ts || Form.marks ">" ts
        return [(none, t.inner ++ (← Reader.chained stop "+" g.inBound))]
    return [(t.name?, t.inner)]
  let all ← Reader.separated (Form.marks ">") "," argument
  Reader.take ">"
  return (all.filterMap Prod.fst, all.flatMap Prod.snd)

/-- One segment; in an expression its arguments begin with colons. -/
def segment (inExpr : Bool) : Reader Path := do
  if ← Reader.sees (Form.anyOf ["super", "self", "crate", "try"]) then
    return .ofName (← Reader.anyWord)
  let name ← if ← Reader.sees (Form.word "Self") then Reader.anyWord else Reader.name
  let ts ← get
  let opens := !inExpr && Form.marks "<" ts && !Form.marks "<=" ts && !Form.marks "<<=" ts
  if opens || Form.turbofish ts then
    let (generics, inner) ← g.arguments
    return { Path.ofName name with argued := true, closed := true, generics, inner }
  else return .ofName name

def moreSegments (inExpr : Bool) (p : Path) : Reader Path :=
  Reader.iterated (fun (p : Path) => do
    let ts ← get
    if Form.marks "::" ts && !Form.callColons ts then
      Reader.take "::"
      return some (p.push (← g.segment inExpr))
    else return none) p

def unqualified (inExpr : Bool) : Reader Path := do
  let leading ← Reader.takeIf "::"
  let first ← g.segment inExpr
  g.moreSegments inExpr { first with leading }

/-- A path, which may begin with a type in angle brackets, perhaps as a trait. -/
def path (inExpr : Bool) : Reader Path := do
  if ← Reader.takeIf "<" then
    let self ← g.inType
    let trait ← if ← Reader.keywordIf "as" then some <$> g.unqualified false else pure none
    Reader.take ">"
    let base : Path := match trait with
      | some t => { t with qualified := true, inner := self ++ t.inner }
      | none => ⟨true, false, [], false, false, false, [], self⟩
    let step (p : Path × Bool) : Reader (Option (Path × Bool)) := do
      if p.2 || Form.marks "::" (← get) then
        Reader.take "::"
        return some (p.1.push (← g.segment inExpr), false)
      else return none
    return (← Reader.iterated step (base, true)).1
  else g.unqualified inExpr

/-- Arguments in parentheses after the last segment of a path. -/
def withSignature (p : Path) : Reader Path := do
  let _ ← Reader.takeIf "::"
  let inner ← g.signature
  return { p with argued := true, closed := true, parenthesized := true, generics := [],
                  inner := p.inner ++ inner }

/-- Whether arguments in parentheses may follow a path. -/
def takesSignature (p : Path) (ts : List Token) : Bool :=
  !p.closed && (Form.group .paren ts || Form.callColons ts)

def typePath : Reader Path := do
  Reader.iterated (fun (p : Path) => do
    if takesSignature p (← get) then
      return some (← g.moreSegments false (← g.withSignature p))
    else return none) (← g.path false)

end Grammar
end Source
end Joinery
