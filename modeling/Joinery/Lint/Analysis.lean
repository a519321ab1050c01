import Joinery.Lint.CallTree
import Joinery.Lint.Config
import Joinery.Text.Singular

/-! Join safety of one statement.
The conditions of a statement are walked in their order with the models joined so far. The root model
and the owner of every compared field are joined, and a relation joins its target before its own
conditions. A collection predicate joins its target for its own conditions alone. The right-hand field
of a dynamic comparison and the fields of order and set methods must belong to a joined model. -/
namespace Joinery
namespace Lint

/-- A field of a model that the statement does not join. -/
structure Finding where
  model : String
  position : Position
deriving DecidableEq, Repr

/-- Why a statement cannot be followed. -/
inductive InspectError where
  | notStatement
  | noReceiver
  | notFieldHandle (path : List String)
  | expectedFieldHandle
deriving DecidableEq, Repr

def InspectError.message : InspectError → String
  | .notStatement => "cannot inspect call site: not a statement"
  | .noReceiver => "cannot inspect call site: method call without receiver"
  | .notFieldHandle path =>
    "cannot inspect call site: " ++ String.intercalate "::" path ++ " is not a field handle"
  | .expectedFieldHandle => "cannot inspect call site: expected a field handle"

/-- Methods of a field that give a field again. -/
def fieldFunctions : List String :=
  ["concat", "plus", "minus", "times", "divided", "modulo", "power", "square_root", "absolute",
    "bit_and", "bit_or", "bit_xor", "bit_not", "shift_left", "shift_right", "appearance"]

/-- Methods around a condition that do not change what it joins. -/
def wrappers : List String :=
  ["preload", "into", "unwrap", "expect"]

def libraryTypes : List String :=
  ["Condition", "WhereCondition", "JoinCondition", "Field", "Relation"]

def isModelName (name : String) : Bool :=
  (name.toList.head?.any fun c => 'A' ≤ c && c ≤ 'Z') && !libraryTypes.contains name

/-- The last two segments of a path whose first one is a model. -/
def modelMember? (path : List String) : Option (String × String) :=
  match path.reverse with
  | last :: model :: _ => if isModelName model then some (model, last) else none
  | _ => none

/-- The model that owns the field at the base of a chain of methods. -/
def fieldModel : CallTree → Except InspectError (String × Position)
  | .method _ (receiver :: _) _ => fieldModel receiver
  | .method _ [] _ => .error .noReceiver
  | .call path _ children position =>
    match modelMember? path, children with
    | some (model, _), [] => .ok (model, position)
    | _, _ => .error (.notFieldHandle path)
  | .list _ _ => .error .expectedFieldHandle
  | .other _ => .error .expectedFieldHandle

/-- The model of a tree that is shaped like a field, perhaps under field functions. -/
def fieldHandle? : CallTree → Option (String × Position)
  | .method name (receiver :: _) _ =>
    if fieldFunctions.contains name then fieldHandle? receiver else none
  | .method _ [] _ => none
  | .call path _ children position =>
    match modelMember? path, children with
    | some (model, _), [] => some (model, position)
    | _, _ => none
  | .list _ _ => none
  | .other _ => none

def relationHandle? : CallTree → Option (String × String)
  | .call path _ [] _ => modelMember? path
  | _ => none

/-- The tree under its wrappers. -/
def unwrapped : CallTree → CallTree
  | .method name (receiver :: rest) position =>
    if wrappers.contains name then unwrapped receiver else .method name (receiver :: rest) position
  | t => t

mutual

/-- The operands of an argument that may be fields; lists are opened, and plain values left out. -/
def operands : CallTree → List CallTree
  | .method name (receiver :: rest) position =>
    if wrappers.contains name then operands receiver else [.method name (receiver :: rest) position]
  | .method name [] position => [.method name [] position]
  | .call path generics children position => [.call path generics children position]
  | .list children _ => operandList children
  | .other _ => []

def operandList : List CallTree → List CallTree
  | [] => []
  | t :: rest => operands t ++ operandList rest

end

/-- What a walk has found, and the models that it has seen named as models. -/
structure Visit where
  findings : List Finding
  seen : List String
deriving Repr

namespace Visit

def empty : Visit := ⟨[], []⟩

/-- Notes a reference to a model, which is a finding unless the model is joined. -/
def check (v : Visit) (joined : List String) (model : String) (position : Position) : Visit where
  findings := if joined.contains model then v.findings else v.findings ++ [⟨model, position⟩]
  seen := v.seen.insert model

def see (v : Visit) (models : List String) : Visit :=
  { v with seen := models.foldl (fun seen m => seen.insert m) v.seen }

end Visit

def joining (joined more : List String) : List String :=
  more.foldl (fun names m => names.insert m) joined

/-- What the analysis of a statement depends on: the names to look for, and the models whose fields
are checked as untyped operands. -/
structure Analyzer where
  config : Config
  known : List String
deriving Repr

namespace Analyzer

def ofConfig (config : Config) : Analyzer :=
  ⟨config, config.models⟩

def withKnown (a : Analyzer) (models : List String) : Analyzer :=
  { a with known := a.known ++ models }

/-- The models that a relation may lead to: its alias, or its name and the singular of its name. -/
def relationTargets (a : Analyzer) (relation : String) : List String :=
  match a.config.relationAliases.lookup relation with
  | some model => [model]
  | none =>
    let name := Text.camelCase relation
    let singular := Text.camelCase (Text.singular (Text.snakeCase relation))
    if singular = name then [name] else [name, singular]

def checkFields (joined : List String) (v : Visit) : List CallTree → Except InspectError Visit
  | [] => .ok v
  | t :: rest => do
    let (model, position) ← fieldModel t
    checkFields joined (v.check joined model position) rest

/-- Checks untyped operands, as far as they are fields of known models. -/
def checkOperands (a : Analyzer) (joined : List String) (v : Visit) : List CallTree → Visit
  | [] => v
  | t :: rest =>
    match fieldHandle? t with
    | some (model, position) =>
      if a.known.contains model then checkOperands a joined (v.check joined model position) rest
      else checkOperands a joined v rest
    | none => checkOperands a joined v rest

/-- A comparison joins the owner of its left-hand field before its right-hand side is checked. -/
def comparison (a : Analyzer) (children : List CallTree) (joined : List String) (v : Visit) :
    Except InspectError (List String × Visit) :=
  match children with
  | [] => .error .noReceiver
  | receiver :: args =>
    match receiver with
    | .method "is_dynamic" fields _ => do
      let field :: _ := fields | .error .noReceiver
      let (owner, _) ← fieldModel field
      let joined := joined.insert owner
      return (joined, ← checkFields joined v (operandList args))
    | .method "is_unsafe" fields _ => do
      let field :: _ := fields | .error .noReceiver
      let (owner, _) ← fieldModel field
      let joined := joined.insert owner
      return (joined, a.checkOperands joined v (operandList args))
    | _ => do
      let (owner, _) ← fieldModel receiver
      return (joined.insert owner, v)

mutual

/-- Walks one condition; gives the models joined after it. -/
def condition (a : Analyzer) (joined : List String) (v : Visit) :
    CallTree → Except InspectError (List String × Visit)
  | .list children _ => conditions a joined v children
  | .other _ => .ok (joined, v)
  | .call path _ children _ =>
    if path.getLast?.any a.config.isConnector then conditions a joined v children
    else
      match modelMember? path, children with
      | some (model, relation), child :: rest =>
        conditions a (joining (joined.insert model) (a.relationTargets relation)) v (child :: rest)
      | _, _ => .ok (joined, v)
  | .method name [] _ =>
    if a.config.isComparison name || a.config.isCollectionMethod name then .error .noReceiver
    else .ok (joined, v)
  | .method name (receiver :: args) _ =>
    if wrappers.contains name then condition a joined v receiver
    else if a.config.isComparison name then a.comparison (receiver :: args) joined v
    else if a.config.isCollectionMethod name then
      match relationHandle? receiver with
      | none => .ok (joined, v)
      | some (model, relation) => do
        let joined := joined.insert model
        let (scope, v) ← conditions a (joining joined (a.relationTargets relation)) v args
        return (joined, v.see scope)
    else .ok (joined, v)

def conditions (a : Analyzer) (joined : List String) (v : Visit) :
    List CallTree → Except InspectError (List String × Visit)
  | [] => .ok (joined, v)
  | t :: rest => do
    let (joined, v) ← condition a joined v t
    conditions a joined v rest

end

/-- A statement chain taken apart: the type arguments and arguments of the query function, and the
arguments of the order and set methods, the innermost first. -/
structure Chain where
  generics : List String
  arguments : List CallTree
  checked : List (List CallTree)
deriving Repr

/-- Takes a chain apart from the outside; `outer` holds the arguments of the methods passed. -/
def chain (a : Analyzer) (outer : List (List CallTree)) : CallTree → Except InspectError Chain
  | .method _ [] _ => .error .noReceiver
  | .method name (receiver :: args) _ =>
    if a.config.isOrderMethod name || a.config.isSetMethod name then
      chain a (args :: outer) receiver
    else chain a outer receiver
  | .call path generics children _ =>
    if path.getLast?.any a.config.isQueryFunction then .ok ⟨generics, children, outer⟩
    else .error .notStatement
  | .list _ _ => .error .notStatement
  | .other _ => .error .notStatement

/-- Whether a tree is a statement chain. -/
def isCallSite (a : Analyzer) : CallTree → Bool
  | .method _ [] _ => false
  | .method _ (receiver :: _) _ => isCallSite a receiver
  | .call path _ _ _ => path.getLast?.any a.config.isQueryFunction
  | .list _ _ => false
  | .other _ => false

/-- Checks the fields of an order or set method; an assignment from a field names two. -/
def checkAssigned (joined : List String) (v : Visit) : List CallTree → Except InspectError Visit
  | [] => .ok v
  | t :: rest => do
    let (model, position) ← fieldModel t
    let v := v.check joined model position
    match t with
    | .method "assign_dynamic" (_ :: others) _ => do
      checkAssigned joined (← checkFields joined v (operandList others)) rest
    | _ => checkAssigned joined v rest

def checkMethods (joined : List String) (v : Visit) :
    List (List CallTree) → Except InspectError Visit
  | [] => .ok v
  | args :: rest => do
    checkMethods joined (← checkAssigned joined v (operandList args)) rest

def walk (a : Analyzer) (t : CallTree) : Except InspectError Visit := do
  let c ← a.chain [] t
  let (joined, v) ← a.conditions c.generics.head?.toList .empty c.arguments
  let v ← checkMethods joined v c.checked
  return v.see joined

/-- The findings of a statement, in the order of the source. -/
def callSite (a : Analyzer) (t : CallTree) : Except InspectError (List Finding) :=
  (a.walk t).map Visit.findings

/-- The models that a statement names where only models can stand. -/
def models (a : Analyzer) (t : CallTree) : Except InspectError (List String) :=
  (a.walk t).map Visit.seen

end Analyzer
end Lint
end Joinery
