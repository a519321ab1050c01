import Joinery.Source.Pattern

/-! Operators between operands: binary ones, assignments, ranges and casts. -/
namespace Joinery
namespace Source

/-- The binary operators with their precedences; a longer one comes before its beginnings. -/
def binaryOperators : List (String × Precedence) :=
  [("+=", .assign), ("-=", .assign), ("*=", .assign), ("/=", .assign), ("%=", .assign),
    ("^=", .assign), ("&=", .assign), ("|=", .assign), ("<<=", .assign), (">>=", .assign),
    ("&&", .and), ("||", .or), ("<<", .shift), (">>", .shift), ("==", .compare), ("<=", .compare),
    ("!=", .compare), (">=", .compare), ("+", .sum), ("-", .sum), ("*", .product), ("/", .product),
    ("%", .product), ("^", .bitXor), ("&", .bitAnd), ("|", .bitOr), ("<", .compare),
    (">", .compare)]

def binaryOperator? (ts : List Token) : Option (String × Precedence) :=
  binaryOperators.find? fun (marks, _) => Form.marks marks ts

namespace Form

def assign : Form := fun ts => marks "=" ts && !marks "=>" ts

/-- What follows a range without its upper end. -/
def afterOpenRange (braces : Bool) : Form := fun ts =>
  ended ts || point ts || (!braces && group .brace ts) || word "as" ts ||
    [",", ";", "?", "=>", "=", "+", "/", "%", "^", ">", "<=", "!=", "-=", "*=", "&=", "|=",
      "<<="].any (marks · ts)

/-- What may not follow a cast. -/
def afterCast : Form := fun ts =>
  point ts || marks "?" ts || group .square ts || group .paren ts

/-- What an expression may begin with after a word that may stand without one. -/
def beginsValue : Form := fun ts =>
  (anyWord ts && !word "as" ts) || anyGroup ts || literal ts ||
    (marks "!" ts && !marks "!=" ts) ||
    (marks "-" ts && !marks "-=" ts && !marks "->" ts) ||
    (marks "*" ts && !marks "*=" ts) ||
    (marks "|" ts && !marks "|=" ts) ||
    (marks "&" ts && !marks "&=" ts) ||
    marks ".." ts ||
    (marks "<" ts && !marks "<=" ts && !marks "<<=" ts) ||
    marks "::" ts || lifetime ts || marks "#" ts

end Form

/-- The precedence of the operator that comes next. -/
def nextPrecedence (ts : List Token) : Precedence :=
  match binaryOperator? ts with
  | some (_, p) => p
  | none =>
    if Form.assign ts then .assign
    else if Form.marks ".." ts then .range
    else if Form.word "as" ts then .cast
    else .anything

namespace Grammar

variable (g : Grammar)

/-- The right-hand side of an operator, with the operators that bind tighter. Assignments go to the
right. -/
def rightSide (braces : Bool) (p : Precedence) : Reader Expr := do
  let first ← g.unary braces
  let step (rhs : Operand) : Reader (Option Operand) := do
    let ts ← get
    let next := nextPrecedence ts
    if p.rank < next.rank || (next = p && p = .assign) then
      let rhs ← g.operators braces next rhs
      if (← get).length = ts.length then return none else return some rhs
    else return none
  return (← Reader.iterated step first).expr

def rangeAfter (braces : Bool) (lower : List Expr) (start : Lint.Position) : Reader Operand := do
  let marks ← Reader.rangeMarks false
  if marks = .open && Form.afterOpenRange braces (← get) then
    return ⟨.other lower start, .range, start⟩
  else return ⟨.other (lower ++ [← g.rightSide braces .range]) start, .range, start⟩

/-- One operator after an operand, unless it binds looser than a precedence. -/
def operator (braces : Bool) (p : Precedence) (lhs : Operand) : Reader (Option Operand) := do
  if lhs.shape = .range then return none
  let ts ← get
  let start := lhs.start
  match binaryOperator? ts with
  | some (marks, q) =>
    if q.rank < p.rank then return none
    if q = .compare && lhs.shape = .comparison then failure
    Reader.take marks
    let rhs ← g.rightSide braces q
    return some ⟨.other [lhs.expr, rhs] start, if q = .compare then .comparison else .plain, start⟩
  | none =>
    if p.rank ≤ Precedence.assign.rank && Form.assign ts then
      Reader.take "="
      return some ⟨.other [lhs.expr, ← g.rightSide braces .assign] start, .plain, start⟩
    else if p.rank ≤ Precedence.range.rank && Form.marks ".." ts then
      return some (← g.rangeAfter braces [lhs.expr] start)
    else if p.rank ≤ Precedence.cast.rank && Form.word "as" ts then
      Reader.skip
      let type ← g.type false
      if Form.afterCast (← get) then failure
      return some ⟨.other (lhs.expr :: type.inner) start, .plain, start⟩
    else return none

/-- The operators after an operand, down to a precedence. -/
def operation (braces : Bool) (p : Precedence) (lhs : Operand) : Reader Operand :=
  Reader.iterated (g.operator braces p) lhs

end Grammar
end Source
end Joinery
