import Joinery.Source.Attribute

/-! Types, bounds and type parameters, of which only the expressions inside them are kept. -/
namespace Joinery
namespace Source
namespace Grammar

variable (g : Grammar)

/-! Bounds -/

def forLifetimes : Reader (List Expr) := do
  Reader.keyword "for"
  Reader.take "<"
  let inner ← Reader.separated (Form.marks ">") "," do
    let inner ← g.outerAttributes
    Reader.lifetime
    return inner
  Reader.take ">"
  return inner

def forLifetimesIf : Reader (List Expr) := do
  if ← Reader.sees (Form.word "for") then g.forLifetimes else return []

/-- A trait in a bound; of a constant one nothing is kept. -/
def traitBound (constant : Bool) : Reader (List Expr) := do
  let lifetimes ← g.forLifetimesIf
  let marked ← if ← Reader.sees (Form.group .square) then
      Reader.inside .square (Reader.keyword "const")
      pure true
    else Reader.keywordIf "const"
  if marked && !constant then failure
  let optional ← Reader.takeIf "?"
  let lifetimes ← if optional && lifetimes.isEmpty then g.forLifetimesIf else pure lifetimes
  let p ← g.unqualified false
  let p ← if takesSignature p (← get) then g.withSignature p else pure p
  return if marked then [] else lifetimes ++ p.inner

def singleBound (constant : Bool) : Reader (Bound × List Expr) := do
  if ← Reader.lifetimeIf then return (.lifetime, [])
  if ← Reader.sees (Form.group .paren) then
    return (.trait, ← Reader.inside .paren (g.traitBound constant))
  else return (.trait, ← g.traitBound constant)

def capture : Reader (Bound × List Expr) := do
  Reader.keyword "use"
  Reader.take "<"
  let _ ← Reader.separated (Form.marks ">") "," do
    if !(← Reader.lifetimeIf) then
      Reader.expect fun ts => Form.name ts || Form.word "Self" ts
      Reader.skip
    return ([] : List Expr)
  Reader.take ">"
  return (.capture, [])

def beginsBound : Form := fun ts =>
  Form.anyWord ts || Form.marks "::" ts || Form.marks "?" ts || Form.lifetime ts ||
    Form.group .paren ts

/-- Bounds with plus signs between them, one of which names a trait. -/
def bounds (plus captures constant : Bool) : Reader (List (Bound × List Expr)) := do
  let all ← Reader.iterated (fun (all : List (Bound × List Expr) × Bool) => do
    if all.2 then return none
    let b ← if captures && (← Reader.sees (Form.word "use")) then capture else g.bound constant
    if plus && (← Reader.takeIf "+") then
      return some (all.1 ++ [b], !beginsBound (← get))
    else return some (all.1 ++ [b], true)) ([], false)
  if all.1.any (·.1 == .trait) then return all.1 else failure

/-! Types -/

/-- What stands inside the parentheses of a type. -/
inductive Parenthesized where
  | tuple (inner : List Expr)
  | bound (inner : List Expr)
  | type (term : TypeTerm)

def inParens : Reader Parenthesized := do
  let ts ← get
  if Form.ended ts then return .tuple []
  if Form.lifetime ts then
    return .tuple ((← g.bounds true false false).flatMap Prod.snd)
  if Form.marks "?" ts then return .bound (← g.traitBound false)
  let first ← g.type true
  if ← Reader.takeIf "," then
    return .tuple (first.inner ++ (← Reader.listed g.inType))
  else return .type first

def moreBounds : Reader (List Expr) :=
  Reader.collected do
    if ← Reader.takeIf "+" then return some (← g.bound false).2 else return none

def parenthesizedType (plus : Bool) : Reader TypeTerm := do
  match ← Reader.inside .paren g.inParens with
  | .tuple inner => return .other inner
  | .bound inner => return .other (inner ++ (← g.moreBounds))
  | .type term =>
    if plus && (term.plain || term.bound) then
      return .other (term.inner ++ (← g.moreBounds))
    else return .other term.inner

def conventionIf : Reader Unit := do
  if ← Reader.keywordIf "extern" then
    if ← Reader.sees (Form.literalOf .text) then Reader.skip

def beginsVariadic : Form := fun ts =>
  Form.marks "..." ts ||
    ((Form.name ts || Form.word "_" ts) && Form.marks ":" (Form.next ts) &&
      Form.marks "..." (Form.next (Form.next ts)))

def typeInput : Reader (List Expr) := do
  let attributes ← g.outerAttributes
  let ts ← get
  if beginsVariadic ts then
    if !Form.marks "..." ts then
      Reader.skip
      Reader.take ":"
    Reader.take "..."
    Reader.expect fun ts => Form.ended ts || (Form.marks "," ts && Form.ended (Form.next ts))
    return attributes
  let mutable := Form.word "mut" ts && Form.word "self" (Form.next ts)
  if mutable then Reader.skip
  let ts ← get
  let named := (Form.name ts || Form.word "_" ts || Form.word "self" ts) &&
    Form.colon (Form.next ts)
  if named then
    Reader.skip
    Reader.take ":"
  else if mutable then
    Reader.skip
    return attributes
  return attributes ++ (← g.inType)

def functionType : Reader TypeTerm := do
  let _ ← Reader.keywordIf "unsafe"
  conventionIf
  Reader.keyword "fn"
  let inputs ← Reader.inside .paren (Reader.listed g.typeInput)
  return .other (inputs ++ (← g.output false))

/-- The bounds after the first of a trait object; a plus may follow the last. -/
def plusBounds : Reader (List Expr) := do
  return (← Reader.iterated (fun (all : List Expr × Bool) => do
    if all.2 || !(← Reader.takeIf "+") then return none
    if beginsBound (← get) then return some (all.1 ++ (← g.bound false).2, false)
    else return some (all.1, true)) ([], false)).1

/-- A path as a type, a macro, or the first bound of a trait object. -/
def pathType (plus lifetimes : Bool) : Reader TypeTerm := do
  let p ← g.typePath
  let ts ← get
  if p.qualified then return ⟨p.segments.getLast?, false, false, false, p.inner⟩
  if Form.marks "!" ts && !Form.marks "!=" ts && p.isPlain then
    Reader.take "!"
    let _ ← Reader.anyGroup
    return .other []
  if lifetimes || (plus && Form.marks "+" ts) then
    if plus && Form.marks "+" ts then return .other (p.inner ++ (← g.plusBounds))
    else return ⟨none, false, false, true, p.inner⟩
  return ⟨p.segments.getLast?, true, !p.leading && p.segments.length == 1 && !p.parenthesized,
    false, p.inner⟩

/-- What a type that is for lifetimes goes on with. -/
def afterForLifetimes : Form := fun ts =>
  Form.plainSegment ts || Form.anyOf ["fn", "unsafe", "extern"] ts

def typeTerm (plus : Bool) : Reader TypeTerm := do
  let lifetimes ← Reader.sees (Form.word "for")
  let inner ← if lifetimes then g.forLifetimes else pure []
  if lifetimes then Reader.expect afterForLifetimes
  let ts ← get
  if Form.group .paren ts then g.parenthesizedType plus
  else if Form.anyOf ["fn", "unsafe", "extern"] ts then
    let term ← g.functionType
    return { term with inner := inner ++ term.inner }
  else if Form.plainSegment ts || Form.marks "::" ts || Form.marks "<" ts then
    let term ← g.pathType plus lifetimes
    return { term with inner := inner ++ term.inner }
  else if Form.word "dyn" ts then
    Reader.skip
    let star ← Reader.takeIf "*"
    let all ← g.bounds plus false false
    return .other (if star then [] else all.flatMap Prod.snd)
  else if Form.group .square ts then
    let inner ← Reader.inside .square do
      let element ← g.inType
      if ← Reader.takeIf ";" then return element ++ (← g.value) else return element
    return .other inner
  else if Form.marks "*" ts then
    Reader.take "*"
    Reader.expect (Form.anyOf ["const", "mut"])
    Reader.skip
    return .other (← g.type false).inner
  else if Form.marks "&" ts then
    Reader.take "&"
    let _ ← Reader.lifetimeIf
    let _ ← Reader.keywordIf "mut"
    return .other (← g.type false).inner
  else if Form.marks "!" ts then
    Reader.take "!"
    return .other []
  else if Form.word "impl" ts then
    Reader.skip
    return .other ((← g.bounds plus true true).flatMap Prod.snd)
  else if Form.word "_" ts then
    Reader.skip
    return .other []
  else if Form.lifetime ts then
    let all ← g.bounds true false false
    return { TypeTerm.other (all.flatMap Prod.snd) with bound := all.length == 1 }
  else failure

/-! Type parameters -/

def parameter : Reader (List Expr) := do
  let attributes ← g.outerAttributes
  let ts ← get
  if Form.lifetime ts then
    Reader.lifetime
    if ← Reader.takeIf ":" then
      let stop : Form := fun ts => Form.ended ts || Form.marks "," ts || Form.marks ">" ts
      let _ ← Reader.chained stop "+" (do Reader.lifetime; return ([] : List Expr))
    return attributes
  else if ← Reader.keywordIf "const" then
    let _ ← Reader.name
    Reader.take ":"
    let type ← g.inType
    if ← Reader.takeIf "=" then return attributes ++ type ++ (← g.constant)
    else return attributes ++ type
  else if Form.word "_" ts then
    Reader.skip
    return attributes
  else
    let _ ← Reader.name
    let bounds ← if ← Reader.takeIf ":" then
        let stop : Form := fun ts =>
          Form.ended ts || Form.marks "," ts || Form.marks ">" ts || Form.marks "=" ts
        Reader.chained stop "+" g.inBound
      else pure []
    if ← Reader.takeIf "=" then return attributes ++ bounds ++ (← g.inType)
    else return attributes ++ bounds

def parameters : Reader (List Expr × Bool) := do
  if ← Reader.takeIf "<" then
    let inner ← Reader.separated (Form.marks ">") "," g.parameter
    Reader.take ">"
    return (inner, true)
  else return ([], false)

def endsWhere : Form := fun ts =>
  Form.ended ts || Form.group .brace ts || Form.marks "," ts || Form.marks ";" ts ||
    Form.colon ts || Form.marks "=" ts

def wherePredicate : Reader (List Expr) := do
  let ts ← get
  if Form.lifetime ts && Form.marks ":" (Form.next ts) then
    Reader.lifetime
    Reader.take ":"
    Reader.chained endsWhere "+" (do Reader.lifetime; return [])
  else
    let lifetimes ← g.forLifetimesIf
    let type ← g.inType
    Reader.take ":"
    return lifetimes ++ type ++ (← Reader.chained endsWhere "+" g.inBound)

def whereClause : Reader (List Expr × Bool) := do
  if ← Reader.keywordIf "where" then
    return (← Reader.chained endsWhere "," g.wherePredicate, true)
  else return ([], false)

end Grammar
end Source
end Joinery
