import Joinery.Source.Token

/-! Readers: what takes tokens from the front of a list and gives a result, or refuses.
A form is a test of the tokens that come next; it takes none. -/
namespace Joinery
namespace Source

open Lint (Position)

abbrev Reader := StateT (List Token) Option

abbrev Form := List Token → Bool

namespace Form

/-- The tokens after the next one; a lifetime counts as one. -/
def next : List Token → List Token
  | .mark '\'' true _ :: .word _ _ :: rest => rest
  | _ :: rest => rest
  | [] => []

def ended : Form := List.isEmpty

def marksOf : List Char → Form
  | [], _ => true
  | [c], .mark d _ _ :: _ => c == d
  | c :: cs, .mark d joined _ :: rest => c == d && joined && marksOf cs rest
  | _ :: _, _ => false

/-- Marks that stand together; more of them may follow. -/
def marks (s : String) : Form := marksOf s.toList

def word (s : String) : Form
  | .word text _ :: _ => text == s
  | _ => false

def anyWord : Form
  | .word _ _ :: _ => true
  | _ => false

def keywords : List String :=
  ["_", "abstract", "as", "async", "await", "become", "box", "break", "const", "continue", "crate",
    "do", "dyn", "else", "enum", "extern", "false", "final", "fn", "for", "if", "impl", "in", "let",
    "loop", "macro", "match", "mod", "move", "mut", "override", "priv", "pub", "ref", "return",
    "Self", "self", "static", "struct", "super", "trait", "true", "try", "type", "typeof", "unsafe",
    "unsized", "use", "virtual", "where", "while", "yield"]

def name : Form
  | .word text _ :: _ => !keywords.contains text
  | _ => false

def anyOf (words : List String) : Form
  | .word text _ :: _ => words.contains text
  | _ => false

def lifetime : Form
  | .mark '\'' true _ :: .word _ _ :: _ => true
  | _ => false

def group (bracket : Bracket) : Form
  | .group b _ _ :: _ => b == bracket
  | _ => false

def anyGroup : Form
  | .group _ _ _ :: _ => true
  | _ => false

def isNumber (kind : LiteralKind) : Bool :=
  kind == .integer || kind == .decimal

/-- A literal, a truth value or a negated number. -/
def literal : Form
  | .literal _ _ _ :: _ => true
  | .word text _ :: _ => text == "true" || text == "false"
  | .mark '-' _ _ :: .literal kind _ _ :: _ => isNumber kind
  | _ => false

def literalOf (kind : LiteralKind) : Form
  | .literal k _ _ :: _ => k == kind
  | _ => false

def point : Form := fun ts => marks "." ts && !marks ".." ts

def colon : Form := fun ts => marks ":" ts && !marks "::" ts

end Form

namespace Reader

variable {α σ : Type}

def sees (form : Form) : Reader Bool := do
  return form (← get)

def position : Reader Position := do
  match ← get with
  | t :: _ => return t.position
  | [] => return ⟨1, 1⟩

def expect (form : Form) : Reader Unit := do
  if form (← get) then return () else failure

def skip : Reader Unit := modify Form.next

def take (s : String) : Reader Unit := do
  expect (Form.marks s)
  modify (List.drop s.length)

def takeIf (s : String) : Reader Bool := do
  if ← sees (Form.marks s) then
    take s
    return true
  else return false

def keyword (s : String) : Reader Unit := do
  expect (Form.word s)
  skip

def keywordIf (s : String) : Reader Bool := do
  if ← sees (Form.word s) then
    skip
    return true
  else return false

def anyWord : Reader String := do
  match ← get with
  | .word text _ :: _ => do
    skip
    return text
  | _ => failure

def name : Reader String := do
  expect Form.name
  anyWord

def nameOrLine : Reader String := do
  expect fun ts => Form.name ts || Form.word "_" ts
  anyWord

def lifetime : Reader Unit := do
  expect Form.lifetime
  skip

def lifetimeIf : Reader Bool := do
  if ← sees Form.lifetime then
    skip
    return true
  else return false

def literal : Reader Unit := do
  expect Form.literal
  if ← sees (Form.marks "-") then skip
  skip

/-- A place of a tuple, which an integer gives. -/
def placeIf : Reader Bool := do
  match ← get with
  | .literal .integer text _ :: _ => do
    if Lexeme.isPlace text.toList then
      skip
      return true
    else failure
  | _ => return false

def whole (r : Reader α) (ts : List Token) : Option α :=
  match r.run ts with
  | some (a, []) => some a
  | _ => none

def inside (bracket : Bracket) (r : Reader α) : Reader α := do
  match ← get with
  | .group b inner _ :: rest => do
    if b ≠ bracket then failure
    match whole r inner with
    | some a => do
      set rest
      return a
    | none => failure
  | _ => failure

def anyGroup : Reader (Bracket × List Token) := do
  match ← get with
  | .group bracket inner _ :: rest => do
    set rest
    return (bracket, inner)
  | _ => failure

/-- Takes nothing if it refuses. -/
def attempt (r : Reader α) : Reader (Option α) := fun ts =>
  match r.run ts with
  | some (a, rest) => some (some a, rest)
  | none => some (none, ts)

def iterate (round : σ → Reader (Option σ)) : Nat → σ → Reader σ
  | 0, _ => failure
  | fuel + 1, s => do
    match ← round s with
    | some s => iterate round fuel s
    | none => return s

/-- Repeats a round until it gives nothing; every round but the last takes a token. -/
def iterated (round : σ → Reader (Option σ)) (s : σ) : Reader σ := do
  iterate round ((← get).length + 2) s

/-- What the rounds give, until one gives nothing. -/
def collected (round : Reader (Option (List α))) : Reader (List α) :=
  iterated (fun all => do return (← round).map (all ++ ·)) []

def items (item : Reader (List α)) : Reader (List α) :=
  collected do
    if ← sees Form.ended then return none
    return some (← item)

def separatedBy (stop : Form) (sep : String) (item : Reader (List α)) : Nat → Reader (List α)
  | 0 => failure
  | fuel + 1 => do
    if ← sees stop then return []
    let first ← item
    if ← sees stop then return first
    take sep
    return first ++ (← separatedBy stop sep item fuel)

/-- Items with marks between them until a form stands next; the marks may follow the last too. -/
def separated (stop : Form) (sep : String) (item : Reader (List α)) : Reader (List α) := do
  separatedBy stop sep item ((← get).length + 1)

def listed (item : Reader (List α)) : Reader (List α) :=
  separated Form.ended "," item

def chainedBy (stop : Form) (sep : String) (item : Reader (List α)) : Nat → Reader (List α)
  | 0 => failure
  | fuel + 1 => do
    if ← sees stop then return []
    let first ← item
    if ← takeIf sep then return first ++ (← chainedBy stop sep item fuel)
    return first

/-- Items as long as marks follow them and no form ends them. -/
def chained (stop : Form) (sep : String) (item : Reader (List α)) : Reader (List α) := do
  chainedBy stop sep item ((← get).length + 1)

end Reader
end Source
end Joinery
