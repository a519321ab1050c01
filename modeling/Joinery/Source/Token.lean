import Joinery.Lint.CallTree
import Joinery.Source.Lexeme

/-! Tokens of a source text: its pieces without the gaps, where whatever stands in brackets is one
token, with the positions that they begin at. -/
namespace Joinery
namespace Source

open Lint (Position)

inductive Token where
  | word (text : String) (position : Position)
  /-- A punctuation character, and whether the next character is one too. -/
  | mark (c : Char) (joined : Bool) (position : Position)
  | literal (kind : LiteralKind) (text : String) (position : Position)
  | group (bracket : Bracket) (inner : List Token) (position : Position)
deriving Repr

namespace Token

def position : Token → Position
  | .word _ position => position
  | .mark _ _ position => position
  | .literal _ _ position => position
  | .group _ _ position => position

end Token

structure Piece where
  lexeme : Lexeme
  text : List Char
  position : Position
deriving Repr

/-- The position after a character. -/
def step (p : Position) (c : Char) : Position :=
  if c = '\n' then ⟨p.line + 1, 1⟩ else ⟨p.line, p.column + 1⟩

/-- The pieces of a text that begins at a position. -/
def pieces (p : Position) (cs : List Char) : Option (List Piece) :=
  if cs.isEmpty then some []
  else
    match Lexeme.first? cs with
    | none => none
    | some (lexeme, after) =>
      if after.length < cs.length then
        let text := Lexeme.before after cs
        (pieces (text.foldl step p) after).map (⟨lexeme, text, p⟩ :: ·)
      else none
termination_by cs.length

/-- A documentation comment is an attribute. -/
def documentation (inner : Bool) (p : Position) : List Token :=
  let content := .group .square [.word "doc" p, .mark '=' false p, .literal .text "" p] p
  if inner then [.mark '#' false p, .mark '!' false p, content] else [.mark '#' false p, content]

/-- An open bracket, with the tokens before it, the last one first. -/
structure Opened where
  bracket : Bracket
  position : Position
  earlier : List Token

/-- The tokens of pieces; `opened` are the brackets around them and `earlier` the tokens since the
innermost, the last one first. -/
def grouped (opened : List Opened) (earlier : List Token) : List Piece → Option (List Token)
  | [] => if opened.isEmpty then some earlier.reverse else none
  | ⟨.gap, _, _⟩ :: rest => grouped opened earlier rest
  | ⟨.documentation inner, _, p⟩ :: rest =>
    grouped opened ((documentation inner p).reverse ++ earlier) rest
  | ⟨.opening bracket, _, p⟩ :: rest => grouped (⟨bracket, p, earlier⟩ :: opened) [] rest
  | ⟨.closing bracket, _, _⟩ :: rest =>
    match opened with
    | [] => none
    | o :: opened =>
      if o.bracket = bracket then
        grouped opened (.group bracket earlier.reverse o.position :: o.earlier) rest
      else none
  | ⟨.mark c joined, _, p⟩ :: rest => grouped opened (.mark c joined p :: earlier) rest
  | ⟨.word, text, p⟩ :: rest => grouped opened (.word (String.ofList text) p :: earlier) rest
  | ⟨.literal kind, text, p⟩ :: rest =>
    grouped opened (.literal kind (String.ofList text) p :: earlier) rest

/-- The tokens of a text, unless a piece of it cannot be read or its brackets do not match. -/
def tokens? (cs : List Char) : Option (List Token) := do
  let p : Position := ⟨1, 1⟩
  match cs with
  | '\ufeff' :: rest => grouped [] [] (← pieces (step p '\ufeff') rest)
  | cs => grouped [] [] (← pieces p cs)

end Source
end Joinery
