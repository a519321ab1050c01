import Joinery.Source.Operation

/-! Operands: expressions without operators between them. -/
namespace Joinery
namespace Source

open Lint (Position)

namespace Operand

def plain (start : Position) (inner : List Expr) : Operand :=
  ⟨.other inner start, .plain, start⟩

def block (start : Position) (inner : List Expr) : Operand :=
  ⟨.other inner start, .block, start⟩

def under (e : Operand) (start : Position) (attributes : List Expr) : Operand :=
  let expr := e.expr.startingAt start
  ⟨if attributes.isEmpty then expr else .attributed attributes expr, e.shape, start⟩

end Operand

namespace Form

def parameters : Form := fun ts =>
  let first := next ts
  let second := next first
  marks "<" ts &&
    (marks ">" first || marks "#" first || word "const" first ||
      ((name first || lifetime first) &&
        (marks ">" second || marks "," second || colon second || marks "=" second)))

/-- A loop for lifetimes is a closure for lifetimes. -/
def forParameters : Form := fun ts => word "for" ts && parameters (next ts)

def closure : Form := fun ts =>
  marks "|" ts || word "move" ts || forParameters ts ||
    (word "const" ts && !group .brace (next ts)) || word "static" ts ||
    (word "async" ts && (marks "|" (next ts) || word "move" (next ts)))

def asyncBlock : Form := fun ts =>
  word "async" ts &&
    (group .brace (next ts) || (word "move" (next ts) && group .brace (next (next ts))))

end Form

namespace Grammar

variable (g : Grammar)

/-! Blocks, conditions and loops -/

/-- An expression before braces that do not belong to it. -/
def head : Reader Expr := do
  return (← g.expr false).expr

def conditionals : Nat → Reader (List Expr)
  | 0 => failure
  | fuel + 1 => do
    Reader.keyword "if"
    let condition ← g.head
    let body ← g.bareBlock
    if !(← Reader.keywordIf "else") then return condition :: body
    if ← Reader.sees (Form.word "if") then
      return condition :: body ++ (← conditionals fuel)
    let start ← Reader.position
    return condition :: body ++ [.other (← g.bareBlock) start]

/-- An arm of a match; a comma has to follow it unless it ends in a block or is the last. -/
def arm : Reader (List Expr) := do
  let attributes ← g.outerAttributes
  let pattern ← g.inAlternatives
  let guard ← if ← Reader.keywordIf "if" then g.value else pure []
  Reader.take "=>"
  let body ← g.early
  if body.shape ≠ .block && !(← Reader.sees Form.ended) then Reader.take ","
  else
    let _ ← Reader.takeIf ","
  return attributes ++ pattern ++ guard ++ [body.expr]

def matchExpr : Reader (List Expr) := do
  Reader.keyword "match"
  let value ← g.head
  let (attributes, arms) ← Reader.inside .brace do
    let attributes ← g.innerAttributes
    return (attributes, ← Reader.items g.arm)
  return attributes ++ value :: arms

def whileExpr : Reader (List Expr) := do
  Reader.keyword "while"
  let condition ← g.head
  let (attributes, body) ← g.block
  return attributes ++ condition :: body

def forExpr : Reader (List Expr) := do
  Reader.keyword "for"
  let pattern ← g.inAlternatives
  Reader.keyword "in"
  let value ← g.head
  let (attributes, body) ← g.block
  return attributes ++ pattern ++ value :: body

def blockAfter (word : String) : Reader (List Expr) := do
  Reader.keyword word
  let (attributes, body) ← g.block
  return attributes ++ body

def labeled : Reader (List Expr) := do
  Reader.lifetime
  Reader.take ":"
  let ts ← get
  if Form.word "while" ts then g.whileExpr
  else if Form.word "for" ts then g.forExpr
  else if Form.word "loop" ts then g.blockAfter "loop"
  else
    let (attributes, body) ← g.block
    return attributes ++ body

/-- An expression that ends a statement by itself. -/
def blockExpr? (ts : List Token) : Option (Reader (List Expr)) :=
  if Form.word "if" ts then some do g.conditionals ((← get).length + 1)
  else if Form.word "while" ts then some g.whileExpr
  else if Form.word "for" ts && !Form.forParameters ts then some g.forExpr
  else if Form.word "loop" ts then some (g.blockAfter "loop")
  else if Form.word "match" ts then some g.matchExpr
  else if Form.word "try" ts && Form.group .brace (Form.next ts) then
    some do
      Reader.skip
      g.bareBlock
  else if Form.word "unsafe" ts then some (g.blockAfter "unsafe")
  else if Form.word "const" ts && Form.group .brace (Form.next ts) then
    some (g.blockAfter "const")
  else if Form.group .brace ts then
    some do
      let (attributes, body) ← g.block
      return attributes ++ body
  else if Form.lifetime ts then some g.labeled
  else none

/-! Closures -/

def closureInput : Reader (List Expr) := do
  let attributes ← g.outerAttributes
  let pattern ← g.inPattern
  if ← Reader.takeIf ":" then return attributes ++ pattern ++ (← g.inType)
  else return attributes ++ pattern

def closure (braces : Bool) : Reader (List Expr) := do
  let lifetimes ← g.forLifetimesIf
  let _ ← Reader.keywordIf "const"
  let _ ← Reader.keywordIf "static"
  let _ ← Reader.keywordIf "async"
  let _ ← Reader.keywordIf "move"
  Reader.take "|"
  let inputs ← Reader.separated (Form.marks "|") "," g.closureInput
  Reader.take "|"
  if ← Reader.takeIf "->" then
    let type ← g.inType
    let start ← Reader.position
    return lifetimes ++ inputs ++ type ++ [.other (← g.bareBlock) start]
  else return lifetimes ++ inputs ++ [(← g.expr braces).expr]

/-! Paths, macros and structures -/

def fieldValue : Reader (List Expr) := do
  if ← Reader.takeIf ".." then
    let base ← if ← Reader.sees Form.ended then pure [] else g.value
    Reader.expect Form.ended
    return base
  let attributes ← g.outerAttributes
  if ← Reader.placeIf then
    Reader.take ":"
    return attributes ++ (← g.value)
  let _ ← Reader.name
  if ← Reader.takeIf ":" then return attributes ++ (← g.value) else return attributes

/-- A macro is opaque, but for the vector macro around a list of expressions. -/
def macroExpr (p : Path) (start : Position) : Reader Operand := do
  Reader.take "!"
  let (bracket, inner) ← Reader.anyGroup
  let shape := if bracket = .brace then .braces else .plain
  if p.segments = ["vec"] && !p.leading then
    match Reader.whole (Reader.listed g.value) inner with
    | some elements => return ⟨.vector elements start, shape, start⟩
    | none => return ⟨.other [] start, shape, start⟩
  else return ⟨.other [] start, shape, start⟩

def pathExpr (braces : Bool) : Reader Operand := do
  let start ← Reader.position
  let p ← g.path true
  let ts ← get
  if Form.bang ts && p.isPlain then g.macroExpr p start
  else if braces && Form.group .brace ts then
    let fields ← Reader.inside .brace (Reader.listed g.fieldValue)
    return .plain start (p.inner ++ fields)
  else return ⟨.path p.segments p.generics p.inner start, .plain, start⟩

/-! Brackets -/

def parenExpr : Reader Operand := do
  let start ← Reader.position
  Reader.inside .paren do
    if ← Reader.sees Form.ended then return .plain start []
    let first ← g.expr true
    if ← Reader.sees Form.ended then return ⟨.wrapped .paren first.expr, .plain, start⟩
    Reader.take ","
    return .plain start (first.expr :: (← Reader.listed g.value))

def squareExpr : Reader Operand := do
  let start ← Reader.position
  Reader.inside .square do
    if ← Reader.sees Form.ended then return ⟨.array [] start, .plain, start⟩
    let first ← g.expr true
    if ← Reader.takeIf ";" then return .plain start (first.expr :: (← g.value))
    if ← Reader.sees Form.ended then return ⟨.array [first.expr] start, .plain, start⟩
    Reader.take ","
    return ⟨.array (first.expr :: (← Reader.listed g.value)) start, .plain, start⟩

/-! Words with an expression behind them -/

def breakExpr (braces : Bool) : Reader (List Expr) := do
  Reader.keyword "break"
  if ← Reader.lifetimeIf then
    if ← Reader.sees (Form.marks ":") then failure
  let ts ← get
  if Form.beginsValue ts && (braces || !Form.group .brace ts) then
    return [(← g.expr braces).expr]
  else return []

/-- What a word that may stand alone gives back. -/
def valueAfter (word : String) : Reader (List Expr) := do
  Reader.keyword word
  if Form.beginsValue (← get) then g.value else return []

def letExpr (braces : Bool) : Reader (List Expr) := do
  Reader.keyword "let"
  let pattern ← g.inAlternatives
  Reader.take "="
  let value ← g.operators braces .compare (← g.unary braces)
  return pattern ++ [value.expr]

/-- Nothing is kept of what only the language itself can call. -/
def builtin : Reader (List Expr) := do
  Reader.keyword "builtin"
  Reader.take "#"
  let _ ← Reader.name
  Reader.expect (Form.group .paren)
  Reader.skip
  return []

/-- The word that an expression begins with decides what it is. -/
def atom (braces : Bool) : Reader Operand := do
  let ts ← get
  let start ← Reader.position
  if Form.literal ts then
    Reader.literal
    return .plain start []
  if Form.asyncBlock ts then
    Reader.skip
    let _ ← Reader.keywordIf "move"
    return .plain start (← g.bareBlock)
  if Form.closure ts then return .plain start (← g.closure braces)
  if Form.word "builtin" ts && Form.marks "#" (Form.next ts) then
    return .plain start (← builtin)
  let tried := Form.word "try" ts &&
    (Form.marks "!" (Form.next ts) || Form.marks "::" (Form.next ts))
  if Form.plainSegment ts || Form.marks "::" ts || Form.marks "<" ts || tried then
    return ← g.pathExpr braces
  if Form.group .paren ts then return ← g.parenExpr
  if Form.group .square ts then return ← g.squareExpr
  if Form.word "break" ts then return .plain start (← g.breakExpr braces)
  if Form.word "return" ts then return .plain start (← g.valueAfter "return")
  if Form.word "yield" ts then return .plain start (← g.valueAfter "yield")
  if Form.word "continue" ts then
    Reader.skip
    let _ ← Reader.lifetimeIf
    return .plain start []
  if Form.word "become" ts then
    Reader.skip
    let _ ← g.value
    return .plain start []
  if Form.word "let" ts then return .plain start (← g.letExpr braces)
  if Form.marks ".." ts then return ← g.rangeAfter braces [] start
  if Form.word "_" ts then
    Reader.skip
    return .plain start []
  match g.blockExpr? ts with
  | some inner => return .block start (← inner)
  | none => failure

/-! What follows an atom -/

/-- Whether a decimal number stands for two places of nested tuples, or for one and the point
behind it. -/
def nestedPlaces (text : String) : Option Bool :=
  let whole := text.toList.takeWhile (· != '.')
  match text.toList.dropWhile (· != '.') with
  | [] => none
  | _ :: rest =>
    if !Lexeme.isPlace whole then none
    else if rest.isEmpty then some false
    else if Lexeme.isPlace rest then some true
    else none

/-- What follows a point: waiting, a method call, or a field. -/
def member (e : Operand) : Reader Operand := do
  let start := e.start
  if ← Reader.keywordIf "await" then return ⟨.wrapped .await e.expr, .plain, start⟩
  if ← Reader.placeIf then return .plain start [e.expr]
  let position ← Reader.position
  let name ← Reader.name
  let turbofish ← Reader.sees (Form.marks "::")
  let inner ← if turbofish then Prod.snd <$> g.arguments else pure []
  if turbofish || (← Reader.sees (Form.group .paren)) then
    let arguments ← Reader.inside .paren (Reader.listed g.value)
    return ⟨.method e.expr name inner arguments position, .plain, start⟩
  else return .plain start [e.expr]

/-- One call, member, index or question mark after an expression. -/
def suffix (e : Operand) : Reader (Option Operand) := do
  let ts ← get
  let start := e.start
  if Form.group .paren ts then
    let arguments ← Reader.inside .paren (Reader.listed g.value)
    return some ⟨.call e.expr arguments start, .plain, start⟩
  else if Form.point ts && e.shape ≠ .range then
    Reader.take "."
    match ← get with
    | .literal .decimal text _ :: _ => do
      Reader.skip
      match nestedPlaces text with
      | none => failure
      | some true => return some (.plain start [e.expr])
      | some false => return some (← g.member (.plain start [e.expr]))
    | _ => return some (← g.member e)
  else if Form.group .square ts then
    let index ← Reader.inside .square g.value
    return some (.plain start (e.expr :: index))
  else if Form.marks "?" ts && e.shape ≠ .range then
    Reader.take "?"
    return some ⟨.wrapped .question e.expr, .plain, start⟩
  else return none

def suffixes (e : Operand) : Reader Operand :=
  Reader.iterated g.suffix e

def unaryExpr (braces : Bool) : Reader Operand := do
  let start ← Reader.position
  let attributes ← g.outerAttributes
  let marked := start != (← Reader.position)
  let ts ← get
  let inner ← if Form.marks "&" ts then do
      let start ← Reader.position
      Reader.take "&"
      let ts ← get
      let raw := Form.word "raw" ts && Form.anyOf ["mut", "const"] (Form.next ts)
      if raw then
        Reader.skip
        Reader.skip
        pure (Operand.plain start [(← g.unary braces).expr])
      else
        let _ ← Reader.keywordIf "mut"
        pure ⟨.wrapped .reference (← g.unary braces).expr, .plain, start⟩
    else if Form.marks "*" ts || Form.marks "!" ts || Form.marks "-" ts then do
      let start ← Reader.position
      modify (List.drop 1)
      pure (Operand.plain start [(← g.unary braces).expr])
    else do g.suffixes (← g.atom braces)
  return if marked then inner.under start attributes else inner

/-- An expression where a statement or an arm begins: one that ends in a block goes on only with a
member or a question mark. -/
def earlyExpr : Reader Operand := do
  let start ← Reader.position
  let attributes ← g.outerAttributes
  let under (e : Operand) : Operand :=
    if attributes.isEmpty then e else e.under start attributes
  let ts ← get
  match g.blockExpr? ts with
  | none => g.operators true .anything (under (← g.unary true))
  | some inner =>
    let e := Operand.block (← Reader.position) (← inner)
    let ts ← get
    if Form.point ts || Form.marks "?" ts then
      g.operators true .anything (under (← g.suffixes e))
    else return under e

def anyExpr (braces : Bool) : Reader Operand := do
  g.operators braces .anything (← g.unary braces)

end Grammar
end Source
end Joinery
