import Joinery.Text.Hex

/-! Texts in quotes, as TOML writes them. Line ends are single characters here. -/
namespace Joinery
namespace Toml
namespace Quoted

/-- What may stand in a line: no control character but the tab. -/
def isPlain (c : Char) : Bool :=
  c == '\t' || (32 ≤ c.toNat && c.toNat != 127)

/-- What may stand in a text over several lines. -/
def isPlainOrLineEnd (c : Char) : Bool :=
  isPlain c || c == '\n'

/-- Whether a backslash hides the character after it; between single quotes it does not. -/
def hides (quote c : Char) : Bool :=
  quote == '"' && c == '\\'

def split? (quote : Char) : List Char → Option (List Char × List Char)
  | [] => none
  | [c] => if c = quote then some ([], []) else none
  | c :: d :: rest =>
    if c = quote then some ([], d :: rest)
    else if hides quote c then
      if isPlain d then (split? quote rest).map fun (s, after) => (c :: d :: s, after) else none
    else if isPlain c then (split? quote (d :: rest)).map fun (s, after) => (c :: s, after)
    else none

/-- The text up to three quotes, and what follows these. Up to two quotes right before them belong to
the text. -/
def splitLong? (quote : Char) : List Char → Option (List Char × List Char)
  | [] => none
  | [_] => none
  | c :: d :: rest =>
    if [quote, quote, quote].isPrefixOf (c :: d :: rest) then
      let extra := min 2 ((rest.drop 1).takeWhile (· == quote)).length
      some (List.replicate extra quote, (rest.drop 1).drop extra)
    else if hides quote c then
      if isPlainOrLineEnd d then (splitLong? quote rest).map fun (s, after) => (c :: d :: s, after)
      else none
    else if isPlainOrLineEnd c then
      (splitLong? quote (d :: rest)).map fun (s, after) => (c :: s, after)
    else none

inductive State where
  | plain
  | escape
  /-- In the digits of a code: how many are to come, and the value of those that came. -/
  | code (left value : Nat)
  /-- In the blanks between a backslash and the line end that it hides. -/
  | lineEnd
  /-- In the blanks after a hidden line end. -/
  | gap
deriving DecidableEq, Repr

def isBlank (c : Char) : Bool :=
  c == ' ' || c == '\t'

def shortEscape? (c : Char) : Option Char :=
  [('b', '\x08'), ('t', '\t'), ('n', '\n'), ('f', '\x0c'), ('r', '\r'), ('e', '\x1b'), ('"', '"'),
    ('\\', '\\')].lookup c

def codeLength? (c : Char) : Option Nat :=
  [('x', 2), ('u', 4), ('U', 8)].lookup c

/-- One character of a text with escapes: the state after it, and what it adds. -/
def step : State → Char → Option (State × List Char)
  | .plain, c => if c = '\\' then some (.escape, []) else some (.plain, [c])
  | .escape, c =>
    if isBlank c then some (.lineEnd, [])
    else if c = '\n' then some (.gap, [])
    else match shortEscape? c, codeLength? c with
      | some d, _ => some (.plain, [d])
      | none, some count => some (.code count 0, [])
      | none, none => none
  | .code left value, c => do
    let value := 16 * value + (← Text.hexValue? c)
    if 1 < left then some (.code (left - 1) value, [])
    else if value.isValidChar then some (.plain, [Char.ofNat value])
    else none
  | .lineEnd, c =>
    if isBlank c then some (.lineEnd, []) else if c = '\n' then some (.gap, []) else none
  | .gap, c =>
    if isBlank c || c == '\n' then some (.gap, [])
    else if c = '\\' then some (.escape, [])
    else some (.plain, [c])

def unescape? (state : State) : List Char → Option (List Char)
  | [] => if state = .plain ∨ state = .gap then some [] else none
  | c :: rest => do
    let (state, cs) ← step state c
    return cs ++ (← unescape? state rest)

def decode? (quote : Char) (s : List Char) : Option (List Char) :=
  if quote = '"' then unescape? .plain s else some s

def short? (quote : Char) (cs : List Char) : Option (String × List Char) := do
  let (s, after) ← split? quote cs
  return (String.ofList (← decode? quote s), after)

/-- The text of several lines after its first quotes; a line end right there is no part of it. -/
def long? (quote : Char) (cs : List Char) : Option (String × List Char) := do
  let (s, after) ← splitLong? quote (if cs.head? = some '\n' then cs.drop 1 else cs)
  return (String.ofList (← decode? quote s), after)

end Quoted
end Toml
end Joinery
