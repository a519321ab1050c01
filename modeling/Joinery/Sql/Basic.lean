import Joinery.Dialect
import Joinery.Value

/-! SQL under construction: text and placeholders in order, with the values to bind.
Neighbouring texts are merged, so that two fragments with the same parts are the same fragment. -/
namespace Joinery

inductive Part where
  | raw (text : String)
  | param
deriving DecidableEq, Repr

/-- A fragment with the values of its placeholders. -/
structure Sql where
  parts : List Part
  params : List Value
deriving Repr

namespace Sql

/-- The parts of one fragment after those of another; texts that meet become one. -/
def appendParts : List Part → List Part → List Part
  | [], q => q
  | [.raw s], .raw t :: q => .raw (s ++ t) :: q
  | p :: rest, q => p :: appendParts rest q

@[simp] theorem nil_appendParts (q : List Part) : appendParts [] q = q := by
  rw [appendParts]

def empty : Sql := ⟨[], []⟩

def text (s : String) : Sql :=
  ⟨if s.isEmpty then [] else [.raw s], []⟩

def bound (v : Value) : Sql :=
  ⟨[.param], [v]⟩

def append (a b : Sql) : Sql :=
  ⟨appendParts a.parts b.parts, a.params ++ b.params⟩

instance : Append Sql := ⟨append⟩

@[simp] theorem params_append (a b : Sql) : (a ++ b).params = a.params ++ b.params := rfl

@[simp] theorem parts_append (a b : Sql) : (a ++ b).parts = appendParts a.parts b.parts := rfl

@[simp] theorem params_text (s : String) : (text s).params = [] := rfl

@[simp] theorem params_bound (v : Value) : (bound v).params = [v] := rfl

@[simp] theorem empty_append (q : Sql) : empty ++ q = q := by
  show append empty q = q
  simp [append, empty]

instance : BEq Sql := ⟨fun a b => a.parts == b.parts && a.params == b.params⟩

def isEmpty (q : Sql) : Bool :=
  q.parts.isEmpty

def push (q : Sql) (s : String) : Sql :=
  q ++ text s

def bind (q : Sql) (v : Value) : Sql :=
  q ++ bound v

/-- Fragments with a text between them. -/
def joined (separator : String) : List Sql → Sql
  | [] => empty
  | [q] => q
  | q :: rest => q ++ text separator ++ joined separator rest

def boundList (values : List Value) : Sql :=
  text "(" ++ joined ", " (values.map bound) ++ text ")"

/-- The text of the parts; `index` placeholders have been written before them. -/
def renderFrom (placeholder : Nat → String) (index : Nat) : List Part → String
  | [] => ""
  | .raw s :: rest => s ++ renderFrom placeholder index rest
  | .param :: rest => placeholder (index + 1) ++ renderFrom placeholder (index + 1) rest

def toText (q : Sql) : String :=
  renderFrom (fun _ => "?") 0 q.parts

/-- The text with the placeholders of a dialect. -/
def render (q : Sql) (d : Dialect) : String :=
  renderFrom d.placeholder 0 q.parts

def placeholderCount (q : Sql) : Nat :=
  q.parts.count .param

end Sql
end Joinery
