import Joinery.Source.Path

/-! Attributes, of which only a value after an equals sign holds expressions. -/
namespace Joinery
namespace Source
namespace Grammar

variable (g : Grammar)

def attributeContent : Reader (List Expr) := do
  if !(← Reader.keywordIf "unsafe") then
    let _ ← Reader.plainPath
  let ts ← get
  if Form.anyGroup ts then
    let _ ← Reader.anyGroup
    return []
  if Form.marks "=" ts then
    Reader.take "="
    match ← Reader.attempt (do Reader.literal; Reader.expect Form.ended) with
    | some _ => return []
    | none =>
      let ts ← get
      if Form.marks "#" ts && Form.group .square (Form.next ts) then failure
      g.value
  else return []

def outerAttributes : Reader (List Expr) :=
  Reader.collected do
    if ← Reader.takeIf "#" then return some (← Reader.inside .square g.attributeContent)
    else return none

def innerAttributes : Reader (List Expr) :=
  Reader.collected do
    let ts ← get
    if Form.marks "#" ts && Form.marks "!" (Form.next ts) then
      Reader.take "#"
      Reader.take "!"
      return some (← Reader.inside .square g.attributeContent)
    else return none

/-- A block: the expressions in its own attributes, and those in its statements. -/
def block : Reader (List Expr × List Expr) :=
  Reader.inside .brace do
    let attributes ← g.innerAttributes
    return (attributes, ← g.statements)

def bareBlock : Reader (List Expr) :=
  Reader.inside .brace g.statements

end Grammar
end Source
end Joinery
