import Joinery.Source.Operand

/-! Items: functions, types, traits, implementations and the rest.
An item that is accepted without a meaning, such as a function without a body, gives nothing. -/
namespace Joinery
namespace Source
namespace Form

def function (safe : Bool) : Form := fun ts =>
  let skipIf (form : Form) (ts : List Token) : List Token := if form ts then next ts else ts
  let ts := skipIf (word "async") (skipIf (word "const") ts)
  let ts := if safe && word "safe" ts then next ts else skipIf (word "unsafe") ts
  let ts := if word "extern" ts then skipIf (literalOf .text) (next ts) else ts
  word "fn" ts

def macroPath : Form := fun ts =>
  name ts || anyOf ["self", "super", "crate"] ts || marks "::" ts

end Form

namespace Grammar

variable (g : Grammar)

/-! Visibility -/

/-- The part of a visibility in parentheses; what looks like a field of a tuple is none. -/
def isRestriction (inner : List Token) : Bool :=
  (Form.anyOf ["crate", "self", "super"] inner && inner.length == 1) || Form.word "in" inner

/-- A visibility, and whether there is one. -/
def visibility : Reader Bool := do
  if ← Reader.keywordIf "pub" then
    match ← get with
    | .group .paren inner _ :: rest => do
      if isRestriction inner then
        if Form.word "in" inner then
          match Reader.whole Reader.plainPath (inner.drop 1) with
          | some _ => set rest
          | none => failure
        else set rest
    | _ => return true
    return true
  else return false

/-! Functions -/

/-- The receiver of a method, with a type of its own unless it is a reference. -/
def receiver : Reader (List Expr) := do
  let reference ← Reader.takeIf "&"
  if reference then
    let _ ← Reader.lifetimeIf
  let _ ← Reader.keywordIf "mut"
  Reader.keyword "self"
  if !reference && (← Reader.takeIf ":") then g.inType else return []

/-- An input of a function; `first` tells whether it may be a receiver. -/
def input (first : Bool) : Reader (List Expr) := do
  let atEnd : Form := fun ts =>
    Form.ended ts || (Form.marks "," ts && Form.ended (Form.next ts))
  let attributes ← g.outerAttributes
  if ← Reader.takeIf "..." then
    Reader.expect atEnd
    return attributes
  match ← Reader.attempt g.receiver with
  | some type => if first then return attributes ++ type else failure
  | none =>
    let ts ← get
    if Form.name ts && Form.marks "<" (Form.next ts) then
      return attributes ++ (← g.inType)
    let pattern ← g.inPattern
    Reader.take ":"
    if ← Reader.takeIf "..." then
      Reader.expect atEnd
      return attributes ++ pattern
    else return attributes ++ pattern ++ (← g.inType)

def inputs : Reader (List Expr) := do
  if ← Reader.sees Form.ended then return []
  let first ← g.input true
  if ← Reader.sees Form.ended then return first
  Reader.take ","
  return first ++ (← Reader.listed (g.input false))

/-- The head of a function; `safe` tells whether it may be marked as safe, which is also given. -/
def functionHead (safe : Bool) : Reader (List Expr × Bool) := do
  let _ ← Reader.keywordIf "const"
  let _ ← Reader.keywordIf "async"
  let marked ← if safe then Reader.keywordIf "safe" else pure false
  if !marked then
    let _ ← Reader.keywordIf "unsafe"
  conventionIf
  Reader.keyword "fn"
  let _ ← Reader.name
  let (parameters, _) ← g.parameters
  let inputs ← Reader.inside .paren g.inputs
  let output ← g.output true
  let (conditions, _) ← g.whereClause
  return (parameters ++ conditions ++ inputs ++ output, marked)

def function (attributes : List Expr) (declared : Bool) : Reader (List Expr) := do
  let (head, _) ← g.functionHead false
  if ← Reader.takeIf ";" then return if declared then attributes ++ head else []
  let (inner, body) ← g.block
  return attributes ++ inner ++ head ++ body

/-! Macros -/

/-- A macro call in the place of an item; it may define a name. -/
def macroItem (named : Bool) : Reader Unit := do
  let _ ← Reader.plainPath
  Reader.take "!"
  if named && (← Reader.sees fun ts => Form.name ts || Form.word "try" ts) then Reader.skip
  let (bracket, _) ← Reader.anyGroup
  if bracket ≠ .brace then Reader.take ";"

def macroDefinition : Reader Unit := do
  Reader.keyword "macro"
  let _ ← Reader.name
  if ← Reader.sees (Form.group .paren) then Reader.skip
  Reader.expect (Form.group .brace)
  Reader.skip

/-! Types -/

def boundsUntil (stop : Form) : Reader (List Expr) :=
  Reader.separated stop "+" g.inBound

/-- A type of a name: its parameters and bounds, its definition if it has one, and whether it has
bounds. `early` tells on which sides of the definition a where clause may stand. -/
def typeAlias (early late : Bool) : Reader (List Expr × Option (List Expr) × Bool) := do
  Reader.keyword "type"
  let _ ← Reader.name
  let (parameters, _) ← g.parameters
  let bounded ← Reader.takeIf ":"
  let bounds ← if bounded then
      g.boundsUntil fun ts => Form.word "where" ts || Form.marks "=" ts || Form.marks ";" ts
    else pure []
  let (first, found) ← if early then g.whereClause else pure ([], false)
  let definition ← if ← Reader.takeIf "=" then some <$> g.inType else pure none
  let (second, _) ← if late && !found then g.whereClause else pure ([], false)
  Reader.take ";"
  return (parameters ++ first ++ second ++ bounds, definition, bounded)

def namedField : Reader (List Expr) := do
  let attributes ← g.outerAttributes
  let _ ← visibility
  let line ← Reader.sees (Form.word "_")
  let _ ← Reader.nameOrLine
  Reader.take ":"
  let ts ← get
  if line && (Form.word "struct" ts ||
      (Form.word "union" ts && Form.group .brace (Form.next ts))) then
    Reader.skip
    Reader.expect (Form.group .brace)
    Reader.skip
    return attributes
  else return attributes ++ (← g.inType)

def namedFields : Reader (List Expr) :=
  Reader.inside .brace (Reader.listed g.namedField)

def placeFields : Reader (List Expr) :=
  Reader.inside .paren (Reader.listed do
    let attributes ← g.outerAttributes
    let _ ← visibility
    return attributes ++ (← g.inType))

/-- A structure after its parameters: the where clause, then the fields. -/
def structBody : Reader (List Expr) := do
  let (conditions, found) ← g.whereClause
  let ts ← get
  if !found && Form.group .paren ts then
    let fields ← g.placeFields
    let (conditions, _) ← g.whereClause
    Reader.take ";"
    return conditions ++ fields
  else if Form.group .brace ts then return conditions ++ (← g.namedFields)
  else
    Reader.take ";"
    return conditions

def variant : Reader (List Expr) := do
  let attributes ← g.outerAttributes
  let _ ← visibility
  let _ ← Reader.name
  let ts ← get
  let fields ← if Form.group .brace ts then g.namedFields
    else if Form.group .paren ts then g.placeFields
    else pure []
  if ← Reader.takeIf "=" then return attributes ++ fields ++ (← g.value)
  else return attributes ++ fields

def structItem : Reader (List Expr) := do
  Reader.skip
  let _ ← Reader.name
  let (parameters, _) ← g.parameters
  return parameters ++ (← g.structBody)

def enumItem : Reader (List Expr) := do
  Reader.keyword "enum"
  let _ ← Reader.name
  let (parameters, _) ← g.parameters
  let (conditions, _) ← g.whereClause
  return parameters ++ conditions ++ (← Reader.inside .brace (Reader.listed g.variant))

def unionItem : Reader (List Expr) := do
  Reader.keyword "union"
  let _ ← Reader.name
  let (parameters, _) ← g.parameters
  let (conditions, _) ← g.whereClause
  return parameters ++ conditions ++ (← g.namedFields)

/-! Constants -/

/-- A constant: its type and value, unless it has no value where one is due or is not as plain as a
constant has to be. -/
def constItem (declared : Bool) : Reader (Option (List Expr)) := do
  Reader.keyword "const"
  let _ ← Reader.nameOrLine
  let (_, argued) ← g.parameters
  Reader.take ":"
  let type ← g.inType
  let value ← if ← Reader.takeIf "=" then some <$> g.value else pure none
  let (_, conditioned) ← g.whereClause
  Reader.take ";"
  if argued || conditioned || (value.isNone && !declared) then return none
  else return some (type ++ value.getD [])

/-- A static, of which nothing is kept unless it has both a type and a value. -/
def staticItem : Reader (Option (List Expr)) := do
  Reader.keyword "static"
  let _ ← Reader.keywordIf "mut"
  let _ ← Reader.name
  if ← Reader.takeIf "=" then
    let _ ← g.value
    Reader.take ";"
    return none
  Reader.take ":"
  let type ← g.inType
  if ← Reader.takeIf ";" then return none
  Reader.take "="
  let value ← g.value
  Reader.take ";"
  return some (type ++ value)

/-! Traits and implementations -/

def traitMember : Reader (List Expr) := do
  let attributes ← g.outerAttributes
  let shown ← visibility
  let withDefault ← Reader.keywordIf "default"
  let marked := shown || withDefault
  let ts ← get
  let inner ← if Form.function false ts then g.function attributes true
    else if Form.word "const" ts then do
      match ← g.constItem true with
      | some inner => pure (attributes ++ inner)
      | none => pure []
    else if Form.word "type" ts then do
      let (head, definition, _) ← g.typeAlias false true
      pure (attributes ++ head ++ definition.getD [])
    else if !marked && Form.macroPath ts then do
      macroItem false
      pure attributes
    else failure
  return if marked then [] else inner

def traitBody (attributes parameters : List Expr) : Reader (List Expr) := do
  let supertraits ← if ← Reader.takeIf ":" then
      g.boundsUntil fun ts => Form.word "where" ts || Form.group .brace ts
    else pure []
  let (conditions, _) ← g.whereClause
  let (inner, members) ← Reader.inside .brace do
    let inner ← g.innerAttributes
    return (inner, ← Reader.items g.traitMember)
  return attributes ++ inner ++ parameters ++ conditions ++ supertraits ++ members

def traitItem (attributes : List Expr) : Reader (List Expr) := do
  let unsafely ← Reader.keywordIf "unsafe"
  let automatic ← Reader.keywordIf "auto"
  Reader.keyword "trait"
  let _ ← Reader.name
  let (parameters, _) ← g.parameters
  if !unsafely && !automatic && (← Reader.takeIf "=") then
    let stop : Form := fun ts => Form.word "where" ts || Form.marks ";" ts
    let bounds ← g.boundsUntil stop
    let (conditions, _) ← g.whereClause
    Reader.take ";"
    return attributes ++ parameters ++ conditions ++ bounds
  else g.traitBody attributes parameters

def implMember : Reader (List Expr) := do
  let attributes ← g.outerAttributes
  let shown ← visibility
  let ts ← get
  let withDefault := Form.word "default" ts && !Form.marks "!" (Form.next ts)
  if withDefault then Reader.skip
  let ts ← get
  if Form.function false ts then g.function attributes false
  else if Form.word "const" ts then
    match ← g.constItem false with
    | some inner => return attributes ++ inner
    | none => return []
  else if Form.word "type" ts then
    match ← g.typeAlias false true with
    | (head, some definition, false) => return attributes ++ head ++ definition
    | _ => return []
  else if !shown && !withDefault && Form.macroPath ts then
    macroItem false
    return attributes
  else failure

/-- An implementation, of which nothing is kept if it has a visibility, is for constants or names
something else than a trait. -/
def implItem (attributes : List Expr) (shown : Bool) : Reader (List Expr) := do
  let _ ← Reader.keywordIf "default"
  let _ ← Reader.keywordIf "unsafe"
  Reader.keyword "impl"
  let (parameters, _) ← if Form.parameters (← get) then g.parameters else pure ([], false)
  let ts ← get
  let constant := Form.word "const" ts ||
    (Form.marks "?" ts && Form.word "const" (Form.next ts))
  if constant then
    let _ ← Reader.takeIf "?"
    Reader.keyword "const"
  let ts ← get
  if Form.marks "!" ts && !Form.group .brace (Form.next ts) then Reader.take "!"
  let first ← g.type true
  let forTrait ← Reader.keywordIf "for"
  let target ← if forTrait then g.inType else pure []
  let (conditions, _) ← g.whereClause
  let (inner, members) ← Reader.inside .brace do
    let inner ← g.innerAttributes
    return (inner, ← Reader.items g.implMember)
  if shown || constant || (forTrait && !first.plain) then return []
  else return attributes ++ inner ++ parameters ++ conditions ++ first.inner ++ target ++ members

/-! Modules, imports and foreign code -/

def modItem (attributes : List Expr) : Reader (List Expr) := do
  let _ ← Reader.keywordIf "unsafe"
  Reader.keyword "mod"
  Reader.expect fun ts => Form.name ts || Form.word "try" ts
  Reader.skip
  if ← Reader.takeIf ";" then return attributes
  let (inner, members) ← Reader.inside .brace do
    let inner ← g.innerAttributes
    return (inner, ← Reader.items g.item)
  return attributes ++ inner ++ members

/-- The tree of an import; `root` tells whether its parts may begin with colons. -/
def importTree : Nat → Bool → Reader Unit
  | 0, _ => failure
  | fuel + 1, root => do
    let ts ← get
    if Form.name ts || Form.anyOf ["self", "super", "crate", "try"] ts then
      Reader.skip
      if ← Reader.takeIf "::" then importTree fuel false
      else if ← Reader.keywordIf "as" then
        let _ ← Reader.nameOrLine
    else if Form.marks "*" ts then Reader.take "*"
    else
      let _ ← Reader.inside .brace (Reader.listed do
        let leading ← if root then Reader.takeIf "::" else pure false
        importTree fuel (root && !leading)
        return ([] : List Expr))

def importItem (fuel : Nat) : Reader Unit := do
  Reader.keyword "use"
  let leading ← Reader.takeIf "::"
  importTree fuel (!leading)
  Reader.take ";"

def externCrate : Reader Unit := do
  Reader.keyword "extern"
  Reader.keyword "crate"
  Reader.expect fun ts => Form.name ts || Form.word "self" ts
  Reader.skip
  if ← Reader.keywordIf "as" then
    let _ ← Reader.nameOrLine
  Reader.take ";"

/-- A foreign function; what is marked as safe or has a body gives nothing. -/
def foreignFunction (attributes : List Expr) : Reader (List Expr) := do
  let (head, safe) ← g.functionHead true
  if ← Reader.sees (Form.group .brace) then
    let _ ← g.block
    return []
  Reader.take ";"
  return if safe then [] else attributes ++ head

def foreignStatic (attributes : List Expr) : Reader (List Expr) := do
  let unsafely ← Reader.keywordIf "unsafe"
  let safe ← if unsafely then pure false else Reader.keywordIf "safe"
  Reader.keyword "static"
  let _ ← Reader.keywordIf "mut"
  let _ ← Reader.name
  Reader.take ":"
  let type ← g.inType
  let valued ← Reader.takeIf "="
  if valued then
    let _ ← g.value
  Reader.take ";"
  return if unsafely || safe || valued then [] else attributes ++ type

def foreignItem : Reader (List Expr) := do
  let attributes ← g.outerAttributes
  let shown ← visibility
  let ts ← get
  if Form.function true ts then g.foreignFunction attributes
  else if Form.word "static" ts ||
      (Form.anyOf ["unsafe", "safe"] ts && Form.word "static" (Form.next ts)) then
    g.foreignStatic attributes
  else if Form.word "type" ts then
    match ← g.typeAlias true true with
    | (head, none, false) => return attributes ++ head
    | _ => return []
  else if !shown && Form.macroPath ts then
    macroItem false
    return attributes
  else failure

def foreignModule (attributes : List Expr) : Reader (List Expr) := do
  let _ ← Reader.keywordIf "unsafe"
  conventionIf
  let (inner, members) ← Reader.inside .brace do
    let inner ← g.innerAttributes
    return (inner, ← Reader.items g.foreignItem)
  return attributes ++ inner ++ members

/-! Items -/

def keptUnder (attributes : List Expr) : Option (List Expr) → List Expr
  | some inner => attributes ++ inner
  | none => []

def itemAfter (attributes : List Expr) : Reader (List Expr) := do
  let shown ← visibility
  let ts ← get
  let after := Form.next ts
  if Form.function false ts then g.function attributes false
  else if Form.word "extern" ts then
    if Form.word "crate" after then
      externCrate
      return attributes
    else g.foreignModule attributes
  else if Form.word "use" ts then
    importItem (ts.length + 64)
    return attributes
  else if Form.word "static" ts then return keptUnder attributes (← g.staticItem)
  else if Form.word "const" ts then return keptUnder attributes (← g.constItem false)
  else if Form.word "unsafe" ts then
    if Form.word "trait" after || (Form.word "auto" after && Form.word "trait" (Form.next after)) then
      g.traitItem attributes
    else if Form.word "impl" after then g.implItem attributes shown
    else if Form.word "extern" after then g.foreignModule attributes
    else g.modItem attributes
  else if Form.word "mod" ts then g.modItem attributes
  else if Form.word "type" ts then
    match ← g.typeAlias true false with
    | (head, some definition, false) => return attributes ++ head ++ definition
    | _ => return []
  else if Form.word "struct" ts then return attributes ++ (← g.structItem)
  else if Form.word "enum" ts then return attributes ++ (← g.enumItem)
  else if Form.word "union" ts && Form.name after then return attributes ++ (← g.unionItem)
  else if Form.word "trait" ts || (Form.word "auto" ts && Form.word "trait" after) then
    g.traitItem attributes
  else if Form.word "impl" ts || (Form.word "default" ts && !Form.marks "!" after) then
    g.implItem attributes shown
  else if Form.word "macro" ts then
    macroDefinition
    return []
  else if !shown && Form.macroPath ts then
    macroItem true
    return attributes
  else failure

def anyItem : Reader (List Expr) := do
  g.itemAfter (← g.outerAttributes)

end Grammar
end Source
end Joinery
