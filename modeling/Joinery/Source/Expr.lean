import Joinery.Lint.CallTree

/-! Expressions of a source text, as far as calls are concerned, and the statements among them.
What is neither a call nor part of a chain keeps only the expressions inside it, in their order. -/
namespace Joinery
namespace Source

open Lint (CallTree Position)

/-- What stands around an expression without changing which call it is. -/
inductive Wrapper where
  | question
  | await
  | paren
  | reference
deriving DecidableEq, Repr

/-- Whether a chain of methods goes on through a wrapper. -/
def Wrapper.isChained (w : Wrapper) : Bool :=
  w != .reference

inductive Expr where
  /-- A path, with the type arguments of its last segment and the expressions inside it. -/
  | path (segments generics : List String) (inner : List Expr) (start : Position)
  | call (function : Expr) (arguments : List Expr) (start : Position)
  /-- A method call, at the position of the name; `inner` are the expressions in type arguments. -/
  | method (receiver : Expr) (name : String) (inner arguments : List Expr) (position : Position)
  | array (elements : List Expr) (start : Position)
  /-- A list built by the vector macro. -/
  | vector (elements : List Expr) (start : Position)
  | wrapped (wrapper : Wrapper) (inner : Expr)
  /-- An expression under attributes that hold expressions. -/
  | attributed (attributes : List Expr) (inner : Expr)
  | other (inner : List Expr) (start : Position)
deriving Repr

namespace Expr

def startingAt (start : Position) : Expr → Expr
  | .path segments generics inner _ => .path segments generics inner start
  | .call function arguments _ => .call function arguments start
  | .array elements _ => .array elements start
  | .vector elements _ => .vector elements start
  | .other inner _ => .other inner start
  | e => e

/-- The expression at the base of a chain: `a().b().c()` gives `a()`. -/
def chainBase : Expr → Expr
  | .method receiver _ _ _ _ => chainBase receiver
  | .wrapped wrapper inner => if wrapper.isChained then chainBase inner else .wrapped wrapper inner
  | .attributed _ inner => chainBase inner
  | e => e

def isCallOf (names : List String) : Expr → Bool
  | .call (.path segments _ _ _) _ _ => segments.getLast?.any names.contains
  | _ => false

/-- Whether an expression is a chain that begins with a call of one of the names. -/
def isCallSite (names : List String) : Expr → Bool
  | .call function arguments start => isCallOf names (.call function arguments start)
  | .method receiver _ _ _ _ => isCallOf names (chainBase receiver)
  | _ => false

mutual

/-- The calls of an expression; parentheses, references and the like leave no trace. -/
def callTree : Expr → CallTree
  | .call (.path segments generics _ position) arguments _ =>
    .call segments generics (callTrees arguments) position
  | .call _ _ start => .other start
  | .method receiver name _ arguments position =>
    .method name (callTree receiver :: callTrees arguments) position
  | .array elements start => .list (callTrees elements) start
  | .vector elements start => .list (callTrees elements) start
  | .wrapped _ inner => callTree inner
  | .attributed _ inner => callTree inner
  | .path _ _ _ start => .other start
  | .other _ start => .other start

def callTrees : List Expr → List CallTree
  | [] => []
  | e :: rest => callTree e :: callTrees rest

end

mutual

/-- The outermost chains inside an expression that begin with a call of one of the names. -/
def callSites (names : List String) : Expr → List CallTree
  | .path _ _ inner _ => callSitesIn names inner
  | .call function arguments start =>
    if isCallSite names (.call function arguments start) then
      [callTree (.call function arguments start)]
    else callSites names function ++ callSitesIn names arguments
  | .method receiver name inner arguments position =>
    if isCallSite names (.method receiver name inner arguments position) then
      [callTree (.method receiver name inner arguments position)]
    else callSites names receiver ++ callSitesIn names inner ++ callSitesIn names arguments
  | .array elements _ => callSitesIn names elements
  | .vector _ _ => []
  | .wrapped _ inner => callSites names inner
  | .attributed attributes inner =>
    if isCallSite names inner then callSites names inner
    else callSitesIn names attributes ++ callSites names inner
  | .other inner _ => callSitesIn names inner

def callSitesIn (names : List String) : List Expr → List CallTree
  | [] => []
  | e :: rest => callSites names e ++ callSitesIn names rest

end

end Expr
end Source
end Joinery
