import Joinery.Text.Blank
import Joinery.Text.Hex
import Joinery.Text.Identifier

/-! Lexemes: the pieces of a source text.
Each reader takes the text from some character on and gives the text after the piece that begins
there, or nothing if no such piece does. -/
namespace Joinery
namespace Source

inductive Bracket where
  | paren
  | square
  | brace
deriving DecidableEq, Repr

inductive LiteralKind where
  /-- A text between quotes, plain or raw. -/
  | text
  | integer
  /-- A number with a point or an exponent. -/
  | decimal
  /-- A character, a byte, bytes or a text for foreign code. -/
  | other
deriving DecidableEq, Repr

inductive Lexeme where
  /-- Blanks, or a comment. -/
  | gap
  /-- A comment that documents what follows it or, an inner one, what it stands in. -/
  | documentation (inner : Bool)
  | opening (bracket : Bracket)
  | closing (bracket : Bracket)
  /-- A punctuation character, and whether the next character is one too. -/
  | mark (c : Char) (joined : Bool)
  | word
  | literal (kind : LiteralKind)
deriving DecidableEq, Repr

namespace Lexeme

def before (after cs : List Char) : List Char :=
  cs.take (cs.length - after.length)

def startsWith (s : String) (cs : List Char) : Bool :=
  s.toList.isPrefixOf cs

/-! Words -/

def beginsWord (c : Char) : Bool :=
  c == '_' || Text.xidStart.contains c

def continuesWord (c : Char) : Bool :=
  Text.xidContinue.contains c

def afterPlainWord : List Char → Option (List Char)
  | [] => none
  | c :: rest => if beginsWord c then some (rest.dropWhile continuesWord) else none

def neverRaw : List String := ["_", "super", "self", "Self", "crate"]

def afterWord : List Char → Option (List Char)
  | 'r' :: '#' :: rest => do
    let after ← afterPlainWord rest
    if neverRaw.contains (String.ofList (before after rest)) then none else some after
  | cs => afterPlainWord cs

/-- A literal may end in a word, such as the type of a number. -/
def afterSuffix (cs : List Char) : List Char :=
  (afterPlainWord cs).getD cs

/-- Beginnings that only literals have, so that a broken literal is no word. -/
def literalBeginnings : List String :=
  ["r\"", "r#\"", "r##", "b\"", "b'", "br\"", "br#", "c\"", "cr\"", "cr#"]

/-! Marks -/

def isMark (c : Char) : Bool :=
  "~!@#$%^&*-=+|;:,<.>/?'".contains c

/-- Whether the text goes on with a mark; the beginning of a comment is none. -/
def beginsMark : List Char → Bool
  | '/' :: '/' :: _ => false
  | '/' :: '*' :: _ => false
  | c :: _ => isMark c
  | [] => false

/-- The single quote is a mark before a word that no quote ends. -/
def mark? : List Char → Option (Lexeme × List Char)
  | [] => none
  | '\'' :: rest => do
    let after ← afterWord rest
    match after with
    | '\'' :: _ => none
    | '#' :: _ => if startsWith "r#" rest then some (.mark '\'' true, rest) else none
    | _ => some (.mark '\'' true, rest)
  | c :: rest => if isMark c then some (.mark c (beginsMark rest), rest) else none

/-! Comments -/

/-- Block comments nest. -/
def afterBlockComment (depth : Nat) : List Char → Option (List Char)
  | [] => none
  | '/' :: '*' :: rest => afterBlockComment (depth + 1) rest
  | '*' :: '/' :: rest => if depth = 0 then some rest else afterBlockComment (depth - 1) rest
  | _ :: rest => afterBlockComment depth rest

/-- Whether a return stands before something else than a line end. -/
def hasBareReturn : List Char → Bool
  | [] => false
  | '\r' :: '\n' :: rest => hasBareReturn rest
  | '\r' :: _ => true
  | _ :: rest => hasBareReturn rest

def lineComment (cs : List Char) : Option (Lexeme × List Char) :=
  let line := cs.takeWhile (· != '\n')
  let after := cs.dropWhile (· != '\n')
  let inner := startsWith "//!" cs
  if inner || (startsWith "///" cs && !startsWith "////" cs) then
    if hasBareReturn (line ++ after.take 1) then none else some (.documentation inner, after)
  else some (.gap, after)

def blockComment (cs : List Char) : Option (Lexeme × List Char) := do
  let after ← afterBlockComment 0 (cs.drop 2)
  let inner := startsWith "/*!" cs
  if inner || (startsWith "/**" cs && !startsWith "/***" cs && !startsWith "/**/" cs) then
    if hasBareReturn (before after cs) then none else some (.documentation inner, after)
  else some (.gap, after)

/-! Quoted literals -/

/-- What a kind of quoted literal may hold. -/
structure Quoting where
  /-- The characters that may stand for themselves. -/
  admits : Char → Bool
  /-- The codes that an escape of two digits may give. -/
  code : Nat → Bool
  /-- The codes that an escape in braces may give. -/
  scalar : Nat → Bool

namespace Quoting

def text : Quoting := ⟨fun _ => true, (· < 128), fun _ => true⟩

def bytes : Quoting := ⟨(·.toNat < 128), fun _ => true, fun _ => false⟩

/-- A text for foreign code, which ends at its first zero, holds none. -/
def foreign : Quoting := ⟨(· != '\x00'), (· != 0), (· != 0)⟩

inductive State where
  | plain
  /-- After a return, which a line end has to follow. -/
  | newline
  | escape
  | code
  | codeLow (high : Nat)
  | scalar
  | scalarDigits (value count : Nat)
  /-- After an escaped line end, where blanks do not count. -/
  | indent
  | indentNewline
deriving DecidableEq, Repr

def plainStep (q : Quoting) (c : Char) : Option State :=
  if c = '\\' then some .escape
  else if c = '\r' then some .newline
  else if q.admits c then some .plain
  else none

def escapeStep (q : Quoting) (c : Char) : Option State :=
  if c = 'x' then some .code
  else if c = 'u' then some .scalar
  else if c = '\n' then some .indent
  else if c = '\r' then some .indentNewline
  else if ['n', 'r', 't', '\\', '\'', '"'].contains c || (c == '0' && q.code 0) then some .plain
  else none

/-- An escape in braces has one to six digits, with underlines between them. -/
def scalarStep (q : Quoting) (value count : Nat) (c : Char) : Option State :=
  match Text.hexValue? c with
  | some digit => if count = 6 then none else some (.scalarDigits (16 * value + digit) (count + 1))
  | none =>
    if count = 0 then none
    else if c = '_' then some (.scalarDigits value count)
    else if c = '\x7d' ∧ value.isValidChar ∧ q.scalar value then some .plain
    else none

def step (q : Quoting) : State → Char → Option State
  | .plain, c => q.plainStep c
  | .newline, c => if c = '\n' then some .plain else none
  | .escape, c => q.escapeStep c
  | .code, c => (Text.hexValue? c).map .codeLow
  | .codeLow high, c => do
    let low ← Text.hexValue? c
    if q.code (16 * high + low) then some .plain else none
  | .scalar, c => if c = '\x7b' then some (.scalarDigits 0 0) else none
  | .scalarDigits value count, c => q.scalarStep value count c
  | .indent, c =>
    if c = ' ' ∨ c = '\t' ∨ c = '\n' then some .indent
    else if c = '\r' then some .indentNewline
    else q.plainStep c
  | .indentNewline, c => if c = '\n' then some .indent else none

def afterEnd (q : Quoting) (state : State) : List Char → Option (List Char)
  | [] => none
  | c :: rest =>
    if c = '"' ∧ (state = .plain ∨ state = .indent) then some rest
    else
      match q.step state c with
      | some state => q.afterEnd state rest
      | none => none

/-- The text after one escaped character. -/
def afterEscape (q : Quoting) (state : State) : List Char → Option (List Char)
  | [] => none
  | c :: rest =>
    match q.step state c with
    | none => none
    | some .plain => some rest
    | some .indent => none
    | some .indentNewline => none
    | some state => q.afterEscape state rest

def afterSingle (q : Quoting) : List Char → Option (List Char)
  | [] => none
  | c :: rest => do
    let after ← if c = '\\' then q.afterEscape .escape rest
      else if q.admits c then some rest
      else none
    match after with
    | '\'' :: after => some after
    | _ => none

def afterRawEnd (q : Quoting) (hashes : Nat) : List Char → Option (List Char)
  | [] => none
  | '\r' :: '\n' :: rest => q.afterRawEnd hashes rest
  | '\r' :: _ => none
  | '"' :: rest =>
    if (List.replicate hashes '#').isPrefixOf rest then some (rest.drop hashes)
    else q.afterRawEnd hashes rest
  | c :: rest => if q.admits c then q.afterRawEnd hashes rest else none

/-- A raw literal begins with up to 255 hashes and a quote. -/
def afterRaw (q : Quoting) (cs : List Char) : Option (List Char) :=
  let hashes := (cs.takeWhile (· == '#')).length
  match cs.drop hashes with
  | '"' :: rest => if hashes ≤ 255 then q.afterRawEnd hashes rest else none
  | _ => none

end Quoting

/-! Numbers -/

def isDigitOrLine (c : Char) : Bool :=
  c.isDigit || c == '_'

/-- The text after the digits of an exponent, of which there has to be one; a sign stands before
the first. -/
def afterExponent (signed digits : Bool) : List Char → Option (List Char)
  | [] => if digits then some [] else none
  | c :: rest =>
    if (c == '+' || c == '-') && !digits then
      if signed then none else afterExponent true digits rest
    else if c.isDigit then afterExponent signed true rest
    else if c == '_' then afterExponent signed digits rest
    else if digits then some (c :: rest)
    else none

/-- A point belongs to a number unless a second point or a word follows it. -/
def afterDecimalDigits (cs : List Char) : Option (List Char) :=
  match cs.dropWhile isDigitOrLine with
  | '.' :: rest =>
    if rest.head?.any (fun c => c == '.' || beginsWord c) then none
    else
      let rest := rest.dropWhile isDigitOrLine
      match rest with
      | c :: digits =>
        if c == 'e' || c == 'E' then some ((afterExponent false false digits).getD rest)
        else some rest
      | [] => some []
  | c :: digits => if c == 'e' || c == 'E' then afterExponent false false digits else none
  | [] => none

/-- A number ends where no word goes on. -/
def atWordEnd (cs : List Char) : Option (List Char) :=
  if cs.head?.any continuesWord then none else some cs

def afterDecimal (cs : List Char) : Option (List Char) :=
  if cs.head?.any Char.isDigit then do atWordEnd (afterSuffix (← afterDecimalDigits cs)) else none

def afterDigits (base : Nat) (none? : Bool) : List Char → Option (List Char)
  | [] => if none? then none else some []
  | c :: rest =>
    if c = '_' then
      if none? && base == 10 then none else afterDigits base none? rest
    else
      match Text.hexValue? c with
      | some digit =>
        if digit < base then afterDigits base false rest
        else if c.isDigit || none? then none
        else some (c :: rest)
      | none => if none? then none else some (c :: rest)

def afterInteger (cs : List Char) : Option (List Char) := do
  let after ← match cs with
    | '0' :: 'x' :: rest => afterDigits 16 true rest
    | '0' :: 'o' :: rest => afterDigits 8 true rest
    | '0' :: 'b' :: rest => afterDigits 2 true rest
    | cs => afterDigits 10 true cs
  atWordEnd (afterSuffix after)

def isPlaceIn (base : Nat) (cs : List Char) : Bool :=
  let digits := cs.filter (· != '_')
  let values := digits.filterMap Text.hexValue?
  !digits.isEmpty && digits.length == values.length && values.all (fun d => decide (d < base)) &&
    decide (values.foldl (fun n d => base * n + d) 0 < UInt32.size)

/-- Whether an integer can count the places of a tuple. -/
def isPlace : List Char → Bool
  | '0' :: 'x' :: digits => isPlaceIn 16 digits
  | '0' :: 'o' :: digits => isPlaceIn 8 digits
  | '0' :: 'b' :: digits => isPlaceIn 2 digits
  | digits => isPlaceIn 10 digits

/-! Pieces -/

def number? (cs : List Char) : Option (Lexeme × List Char) :=
  match afterDecimal cs with
  | some after => some (.literal .decimal, after)
  | none => (afterInteger cs).map fun after => (.literal .integer, after)

def quoted (kind : LiteralKind) (after : Option (List Char)) : Option (Lexeme × List Char) :=
  after.map fun after => (.literal kind, afterSuffix after)

def literal? : List Char → Option (Lexeme × List Char)
  | '"' :: rest => quoted .text (Quoting.text.afterEnd .plain rest)
  | 'r' :: rest => quoted .text (Quoting.text.afterRaw rest)
  | 'b' :: '"' :: rest => quoted .other (Quoting.bytes.afterEnd .plain rest)
  | 'b' :: 'r' :: rest => quoted .other (Quoting.bytes.afterRaw rest)
  | 'b' :: '\'' :: rest => quoted .other (Quoting.bytes.afterSingle rest)
  | 'c' :: '"' :: rest => quoted .other (Quoting.foreign.afterEnd .plain rest)
  | 'c' :: 'r' :: rest => quoted .other (Quoting.foreign.afterRaw rest)
  | '\'' :: rest => quoted .other (Quoting.text.afterSingle rest)
  | cs => number? cs

def word? (cs : List Char) : Option (Lexeme × List Char) :=
  if literalBeginnings.any (startsWith · cs) then none
  else (afterWord cs).map fun after => (.word, after)

/-- The marks of direction count as blanks. -/
def isGap (c : Char) : Bool :=
  Text.isBlank c || c == '\u200e' || c == '\u200f'

/-- Brackets around a comment of this text are one literal. -/
def placeholder : String := "(/*ERROR*/)"

def first? : List Char → Option (Lexeme × List Char)
  | [] => none
  | '/' :: '/' :: rest => lineComment ('/' :: '/' :: rest)
  | '/' :: '*' :: rest => blockComment ('/' :: '*' :: rest)
  | '(' :: rest =>
    if startsWith placeholder ('(' :: rest) then
      some (.literal .other, ('(' :: rest).drop placeholder.length)
    else some (.opening .paren, rest)
  | '[' :: rest => some (.opening .square, rest)
  | '\x7b' :: rest => some (.opening .brace, rest)
  | ')' :: rest => some (.closing .paren, rest)
  | ']' :: rest => some (.closing .square, rest)
  | '\x7d' :: rest => some (.closing .brace, rest)
  | c :: rest =>
    if isGap c then some (.gap, rest.dropWhile isGap)
    else literal? (c :: rest) <|> mark? (c :: rest) <|> word? (c :: rest)

end Lexeme
end Source
end Joinery
