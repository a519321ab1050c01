import Joinery.Source.Expr
import Joinery.Source.Reader

/-! The readers that refer to each other. Each part of the grammar is written over a record of them,
and the record is tied together where all parts are known. -/
namespace Joinery
namespace Source

open Lint (Position)

/-- How tightly an operator binds, the loosest first. -/
inductive Precedence where
  | anything
  | assign
  | range
  | or
  | and
  | compare
  | bitOr
  | bitXor
  | bitAnd
  | shift
  | sum
  | product
  | cast
deriving DecidableEq, Repr

def Precedence.rank (p : Precedence) : Nat := p.ctorIdx

inductive Shape where
  | plain
  /-- An expression that ends a statement by itself. -/
  | block
  /-- A macro with braces. -/
  | braces
  | range
  | comparison
deriving DecidableEq, Repr

/-- An expression as it stands in a larger one. -/
structure Operand where
  expr : Expr
  shape : Shape
  start : Position
deriving Repr

structure TypeTerm where
  /-- The last segment, if the type is a path. -/
  name? : Option String
  /-- A path that begins with no type in angle brackets. -/
  plain : Bool
  /-- A path of one segment, which may also name an associated type. -/
  single : Bool
  /-- A trait object of one bound, without a keyword. -/
  bound : Bool
  inner : List Expr
deriving Repr

def TypeTerm.other (inner : List Expr) : TypeTerm := ⟨none, false, false, false, inner⟩

structure PatternTerm where
  /-- A range without one of its ends. -/
  halfOpen : Bool
  inner : List Expr
deriving Repr

inductive Bound where
  | lifetime
  | capture
  | trait
deriving DecidableEq, Repr

/-- The readers of the parts that hold each other. What holds no calls itself gives the expressions
inside it. -/
structure Grammar where
  /-- An expression; the argument tells whether braces after a path belong to it. -/
  expr : Bool → Reader Operand
  /-- An expression where a statement or an arm begins. -/
  early : Reader Operand
  unary : Bool → Reader Operand
  /-- The operators after an operand, down to a precedence. -/
  operators : Bool → Precedence → Operand → Reader Operand
  /-- A type; the argument tells whether it may go on with a plus. -/
  type : Bool → Reader TypeTerm
  /-- A bound; the argument tells whether it may ask for a constant trait. -/
  bound : Bool → Reader (Bound × List Expr)
  /-- A pattern without alternatives at the top. -/
  pattern : Reader PatternTerm
  /-- Statements up to the end. -/
  statements : Reader (List Expr)
  item : Reader (List Expr)

namespace Grammar

def empty : Grammar where
  expr _ := failure
  early := failure
  unary _ := failure
  operators _ _ _ := failure
  type _ := failure
  bound _ := failure
  pattern := failure
  statements := failure
  item := failure

/-- A whole expression, braces included. -/
def value (g : Grammar) : Reader (List Expr) := do
  return [(← g.expr true).expr]

def inType (g : Grammar) : Reader (List Expr) := do
  return (← g.type true).inner

def inPattern (g : Grammar) : Reader (List Expr) := do
  return (← g.pattern).inner

def inBound (g : Grammar) : Reader (List Expr) := do
  return (← g.bound true).2

end Grammar
end Source
end Joinery
