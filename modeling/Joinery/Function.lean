import Joinery.Error

/-! Functions applied to a column before it is compared.
On each dialect a function has one way of being written, or none. -/
namespace Joinery

/-- How a function is written around the SQL that it is applied to. -/
inductive Strategy where
  /-- `(inner op ?)` -/
  | infixOp (op : String)
  /-- `name(inner, ?, ...)` -/
  | call (name : String)
  /-- The operator directly in front. -/
  | prefixOp (op : String)
deriving DecidableEq, Repr

namespace Strategy

/-- Writes the function around `inner` for `count` given values. -/
def apply (s : Strategy) (inner : String) (count : Nat) : String :=
  match s with
  | .infixOp op => "(" ++ inner ++ " " ++ op ++ " ?)"
  | .call name => name ++ "(" ++ inner ++ String.join (List.replicate count ", ?") ++ ")"
  | .prefixOp op => op ++ inner

/-- How many parameters the written form binds when `count` values are given. -/
def placeholders (s : Strategy) (count : Nat) : Nat :=
  match s with
  | .infixOp _ => 1
  | .call _ => count
  | .prefixOp _ => 0

end Strategy

inductive Function where
  | plus
  | minus
  | times
  | divided
  | modulo
  | power
  | squareRoot
  | absolute
  | bitAnd
  | bitOr
  | bitXor
  | bitNot
  | shiftLeft
  | shiftRight
  | concat
deriving DecidableEq, Repr

namespace Function

def all : List Function :=
  [.plus, .minus, .times, .divided, .modulo, .power, .squareRoot, .absolute, .bitAnd, .bitOr,
    .bitXor, .bitNot, .shiftLeft, .shiftRight, .concat]

theorem mem_all (f : Function) : f ∈ all := by
  cases f <;> decide

def name : Function → String
  | .plus => "Plus"
  | .minus => "Minus"
  | .times => "Times"
  | .divided => "Divided"
  | .modulo => "Modulo"
  | .power => "Power"
  | .squareRoot => "SquareRoot"
  | .absolute => "Absolute"
  | .bitAnd => "BitAnd"
  | .bitOr => "BitOr"
  | .bitXor => "BitXor"
  | .bitNot => "BitNot"
  | .shiftLeft => "BitShiftLeft"
  | .shiftRight => "BitShiftRight"
  | .concat => "Concat"

def ofName? (s : String) : Option Function :=
  all.find? (fun f => f.name == s)

@[simp] theorem ofName?_name (f : Function) : ofName? f.name = some f := by
  cases f <;> decide

def arity : Function → Nat
  | .squareRoot => 0
  | .absolute => 0
  | .bitNot => 0
  | _ => 1

def own? : Function → Dialect → Option Strategy
  | .power, .postgres => some (.infixOp "^")
  | .squareRoot, .postgres => some (.prefixOp "|/")
  | .absolute, .postgres => some (.prefixOp "@")
  | .bitXor, .postgres => some (.infixOp "#")
  | .bitXor, .mysql => some (.infixOp "^")
  | .bitXor, .sqlserver => some (.infixOp "^")
  | .concat, .postgres => some (.infixOp "||")
  | _, _ => none

def fallback? : Function → Option Strategy
  | .plus => some (.infixOp "+")
  | .minus => some (.infixOp "-")
  | .times => some (.infixOp "*")
  | .divided => some (.infixOp "/")
  | .modulo => some (.infixOp "%")
  | .power => some (.call "POWER")
  | .squareRoot => some (.call "SQRT")
  | .absolute => some (.call "abs")
  | .bitAnd => some (.infixOp "&")
  | .bitOr => some (.infixOp "|")
  | .bitXor => none
  | .bitNot => some (.prefixOp "~")
  | .shiftLeft => some (.infixOp "<<")
  | .shiftRight => some (.infixOp ">>")
  | .concat => some (.call "CONCAT")

/-- The form on a dialect: its own before the general one. -/
def strategy? (f : Function) (d : Dialect) : Option Strategy :=
  (f.own? d).or f.fallback?

def resolve (f : Function) (d : Dialect) : Except QueryError Strategy :=
  match f.strategy? d with
  | some s => .ok s
  | none => .error (.unsupported f.name d)

end Function
end Joinery
