import Joinery.Source.Item

/-! Statements of a block, and the grammar as a whole. -/
namespace Joinery
namespace Source
namespace Form

def item : Form := fun ts =>
  let first := next ts
  let second := next first
  anyOf ["pub", "extern", "use", "fn", "mod", "type", "struct", "enum", "trait", "impl", "macro"] ts ||
    (word "crate" ts && !marks "::" first) ||
    (word "static" ts && (word "mut" first || name first)) ||
    (word "const" ts &&
      !(group .brace first || word "static" first || word "move" first || marks "|" first ||
        (word "async" first && !anyOf ["unsafe", "extern", "fn"] second))) ||
    (word "unsafe" ts && !group .brace first) ||
    (word "async" ts && anyOf ["unsafe", "extern", "fn"] first) ||
    (word "union" ts && name first) ||
    (word "auto" ts && word "trait" first) ||
    (word "default" ts && anyOf ["unsafe", "impl"] first)

end Form

namespace Grammar

variable (g : Grammar)

/-- Whether the last token read, of those before and after, is a pair of braces. -/
def endsInBraces (before after : List Token) : Bool :=
  Form.group .brace (before.drop (before.length - after.length - 1))

/-- A binding; its value may fail over to a block unless it ends in braces itself. -/
def binding : Reader (List Expr) := do
  Reader.keyword "let"
  let pattern ← g.inPattern
  let type ← if ← Reader.takeIf ":" then g.inType else pure []
  let value ← if ← Reader.takeIf "=" then do
      let before ← get
      let value ← g.value
      let after ← get
      if !endsInBraces before after && Form.word "else" after then
        Reader.skip
        let start ← Reader.position
        pure (value ++ [.other (← g.bareBlock) start])
      else pure value
    else pure []
  Reader.take ";"
  return pattern ++ type ++ value

/-- What a macro call in the place of a statement is. -/
inductive MacroCall where
  /-- One that defines a name, and so an item. -/
  | item
  /-- One with braces, and so a statement by itself. -/
  | statement
  | none
deriving DecidableEq, Repr

def macroCall (ts : List Token) : MacroCall :=
  match Reader.plainPath.run ts with
  | some (_, after) =>
    let first := Form.next after
    let second := Form.next first
    if !Form.marks "!" after then .none
    else if Form.name first || Form.word "try" first then .item
    else if Form.group .brace first && !Form.point second && !Form.marks "?" second then .statement
    else .none
  | none => .none

/-- A statement, and whether a semicolon is due after it. -/
def statement : Reader (List Expr × Bool) := do
  let attributes ← g.outerAttributes
  let ts ← get
  let call := macroCall ts
  if call = .statement then
    let _ ← Reader.plainPath
    Reader.take "!"
    Reader.skip
    let _ ← Reader.takeIf ";"
    return (attributes, false)
  else if Form.word "let" ts then return (attributes ++ (← g.binding), false)
  else if Form.item ts || call = .item then return (← g.itemAfter attributes, false)
  else
    let e ← g.early
    let ended ← Reader.takeIf ";"
    let expr := if attributes.isEmpty then e.expr else .attributed attributes e.expr
    return ([expr], !ended && e.shape ≠ .block && e.shape ≠ .braces)

def blockStatements : Reader (List Expr) :=
  Reader.collected do
    if ← Reader.takeIf ";" then return some []
    if ← Reader.sees Form.ended then return none
    let (inner, due) ← g.statement
    if due then Reader.expect Form.ended
    return some inner


/-- The grammar that reads up to a depth of nesting. -/
def upTo : Nat → Grammar
  | 0 => .empty
  | depth + 1 =>
    { expr := fun braces ts => (upTo depth).anyExpr braces ts
      early := fun ts => (upTo depth).earlyExpr ts
      unary := fun braces ts => (upTo depth).unaryExpr braces ts
      operators := fun braces p e ts => (upTo depth).operation braces p e ts
      type := fun plus ts => (upTo depth).typeTerm plus ts
      bound := fun constant ts => (upTo depth).singleBound constant ts
      pattern := fun ts => (upTo depth).singlePattern ts
      statements := fun ts => (upTo depth).blockStatements ts
      item := fun ts => (upTo depth).anyItem ts }

end Grammar

/-! Source texts -/

def afterGaps : Nat → List Char → List Char
  | 0, cs => cs
  | fuel + 1, cs =>
    match Lexeme.first? cs with
    | some (.gap, after) => afterGaps fuel after
    | _ => cs

/-- A text without a first line that names a program to run it, which stays as an empty line. -/
def withoutProgram (cs : List Char) : List Char :=
  match cs with
  | '#' :: '!' :: rest =>
    if (afterGaps rest.length rest).head? = some '[' then cs
    else cs.dropWhile (· != '\n')
  | cs => cs

def withoutByteOrder : List Char → List Char
  | '\ufeff' :: rest => rest
  | cs => cs

/-- The expressions of a source text in their order, those inside others left out; nothing if the
text is no source text. -/
def exprs? (text : String) : Option (List Expr) := do
  let cs := withoutProgram (withoutByteOrder text.toList)
  let g := Grammar.upTo (8 * cs.length + 64)
  let file : Reader (List Expr) := do
    let attributes ← g.innerAttributes
    return attributes ++ (← Reader.items g.item)
  Reader.whole file (← tokens? cs)

def callSites? (names : List String) (text : String) : Option (List Lint.CallTree) :=
  (exprs? text).map (Expr.callSitesIn names)

end Source
end Joinery
