import Joinery.Sql.Basic

/-! Placeholders in SQL that is given as text.
A question mark is a placeholder unless it stands in a literal, that is after one of three quotes and
before the next quote of that kind. -/
namespace Joinery

/-- Where a scan stands: outside of literals, or inside one, possibly after an escaping backslash. -/
inductive Scan where
  | outside
  | inside (quote : Char) (escaped : Bool)
deriving DecidableEq, Repr

namespace Scan

/-- The characters that open a literal: apostrophe, quotation mark and grave accent. -/
def isQuote (c : Char) : Bool :=
  c == '\'' || c == '"' || c == '\x60'

/-- The place after one more character. With `backslash`, a backslash escapes the next character of a
literal that no grave accent opened. -/
def next (backslash : Bool) : Scan → Char → Scan
  | .outside, c => if isQuote c then .inside c false else .outside
  | .inside q true, _ => .inside q false
  | .inside q false, c =>
    if backslash && c == '\\' && q != '\x60' then .inside q true
    else if c == q then .outside
    else .inside q false

end Scan

namespace Sql

def flush (read : List Char) : List Part :=
  if read.isEmpty then [] else [.raw (String.ofList read.reverse)]

/-- The parts of a text from a given place on; `read` is the text before it, last character first. -/
def splitFrom (backslash : Bool) (place : Scan) (read : List Char) : List Char → List Part
  | [] => flush read
  | c :: rest =>
    if place = .outside ∧ c = '?' then flush read ++ .param :: splitFrom backslash .outside [] rest
    else splitFrom backslash (place.next backslash c) (c :: read) rest

def split (backslash : Bool) (s : String) : List Part :=
  splitFrom backslash .outside [] s.toList

def fragment (s : String) (values : List Value) : Sql :=
  ⟨split false s, values⟩

/-- A text with placeholders outside of the literals of a dialect. -/
def fragmentFor (d : Dialect) (s : String) (values : List Value) : Sql :=
  ⟨split d.backslashEscapes s, values⟩

def numberPlaceholders (s : String) (d : Dialect) : String :=
  (fragmentFor d s []).render d

end Sql
end Joinery
