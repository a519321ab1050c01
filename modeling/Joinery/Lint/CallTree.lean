/-! Call trees: the calls of an expression, without everything else that stands in it. -/
namespace Joinery
namespace Lint

/-- A line and a column of a source text, both counted from one. -/
structure Position where
  line : Nat
  column : Nat
deriving DecidableEq, Repr

namespace Position

def text (p : Position) : String :=
  toString p.line ++ ":" ++ toString p.column

def before (p q : Position) : Bool :=
  decide (p.line < q.line) || (p.line == q.line && decide (p.column < q.column))

end Position

inductive CallTree where
  /-- A call of a path, with the type arguments of its last segment. -/
  | call (path generics : List String) (children : List CallTree) (position : Position)
  /-- A method call; its first child is the receiver. -/
  | method (name : String) (children : List CallTree) (position : Position)
  | list (children : List CallTree) (position : Position)
  /-- Literals, variables, closures and the rest. -/
  | other (position : Position)
deriving Repr

namespace CallTree

def children : CallTree → List CallTree
  | .call _ _ children _ => children
  | .method _ children _ => children
  | .list children _ => children
  | .other _ => []

def position : CallTree → Position
  | .call _ _ _ position => position
  | .method _ _ position => position
  | .list _ position => position
  | .other position => position

/-- The last segment of a call path, or the name of a method. -/
def name? : CallTree → Option String
  | .call path _ _ _ => path.getLast?
  | .method name _ _ => some name
  | .list _ _ => none
  | .other _ => none

end CallTree
end Lint
end Joinery
