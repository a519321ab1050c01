import Joinery.Text.Casing
import Joinery.Text.Letters

/-! Words of an identifier and the cases written from them.
A word ends at every character that is not alphanumeric, where a lower-case letter is followed by an
upper-case one, and before the last letter of an upper-case run that goes on in lower case. -/
namespace Joinery
namespace Text

def isUpper (c : Char) : Bool :=
  if c.toNat < 128 then c.isUpper else uppercase.contains c

def isLower (c : Char) : Bool :=
  if c.toNat < 128 then c.isLower else lowercase.contains c

def isAlphanumeric (c : Char) : Bool :=
  if c.toNat < 128 then c.isAlphanum else alphanumeric.contains c

/-- The case of the last cased character of the word being read. -/
inductive WordCase where
  | uncased
  | lower
  | upper
deriving DecidableEq, Repr

def WordCase.next (w : WordCase) (c : Char) : WordCase :=
  if isLower c then .lower else if isUpper c then .upper else w

/-- Splits a run of alphanumeric characters; `word` is the current word, last character first. -/
def splitRun (w : WordCase) (word : List Char) : List Char → List (List Char)
  | [] => []
  | [c] => [(c :: word).reverse]
  | c :: d :: rest =>
    if w.next c = .lower ∧ isUpper d = true then
      (c :: word).reverse :: splitRun .uncased [] (d :: rest)
    else if w = .upper ∧ isUpper c = true ∧ isLower d = true then
      word.reverse :: splitRun .uncased [c] (d :: rest)
    else
      splitRun (w.next c) (c :: word) (d :: rest)

/-- The maximal runs of alphanumeric characters; `run` is the current one, last character first. -/
def runsFrom (run : List Char) : List Char → List (List Char)
  | [] => [run.reverse]
  | c :: rest =>
    if isAlphanumeric c then runsFrom (c :: run) rest else run.reverse :: runsFrom [] rest

def words (s : String) : List (List Char) :=
  (runsFrom [] s.toList).flatMap (splitRun .uncased [])

/-- A word in lower case; a capital sigma that ends it takes its final form. -/
def lowerWord : List Char → List Char
  | [] => []
  | [c] => if c = 'Σ' then ['ς'] else lower c
  | c :: rest => lower c ++ lowerWord rest

def capitalWord : List Char → List Char
  | [] => []
  | c :: rest => upper c ++ lowerWord rest

/-- The words in lower case, joined by underscores. -/
def snakeCase (s : String) : String :=
  String.intercalate "_" ((words s).map (fun w => String.ofList (lowerWord w)))

def camelCase (s : String) : String :=
  String.join ((words s).map (fun w => String.ofList (capitalWord w)))

end Text
end Joinery
