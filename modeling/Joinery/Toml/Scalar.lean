import Joinery.Decimal.Reader
import Joinery.Text.Hex
import Joinery.Time.Instant
import Joinery.Toml.Basic

/-! Truth values, numbers, dates and times of day, as TOML writes them. -/
namespace Joinery
namespace Toml
namespace Scalar

/-- The digits of a text in which single underlines may stand between digits. -/
def digits? (isDigit : Char → Bool) : List Char → Option (List Char)
  | [] => none
  | [c] => if isDigit c then some [c] else none
  | c :: d :: rest =>
    if !isDigit c then none
    else if d = '_' then (digits? isDigit rest).map (c :: ·)
    else (digits? isDigit (d :: rest)).map (c :: ·)

/-- The digits of a number without zeros in front. -/
def wholeDigits? (cs : List Char) : Option (List Char) := do
  let ds ← digits? Char.isDigit cs
  if ds.head? = some '0' ∧ 1 < ds.length then none else some ds

def signed (negative : Bool) (n : Nat) : Int :=
  if negative then -(n : Int) else n

/-- An integer, with a sign or with the letter of its base. -/
def integer? (cs : List Char) : Option Int :=
  match cs with
  | '0' :: 'x' :: rest => do
    let ds ← digits? (fun c => (Text.hexValue? c).isSome) rest
    (Text.hexNumber? ds).map Int.ofNat
  | '0' :: 'o' :: rest => do
    let ds ← digits? (fun c => '0' ≤ c ∧ c ≤ '7') rest
    return ds.foldl (fun n c => 8 * n + (c.toNat - 48)) 0
  | '0' :: 'b' :: rest => do
    let ds ← digits? (fun c => c == '0' || c == '1') rest
    return ds.foldl (fun n c => 2 * n + (c.toNat - 48)) 0
  | _ =>
    let (negative, body) := Decimal.sign cs
    (wholeDigits? body).map fun ds => signed negative (Decimal.digitsValue ds)

def isExponentMark (c : Char) : Bool :=
  c == 'e' || c == 'E'

/-- Whether a text without a sign has the form of a number with a fraction, an exponent or both. -/
def isDecimal (cs : List Char) : Bool :=
  let mantissa := cs.takeWhile (!isExponentMark ·)
  let exponent := cs.drop mantissa.length
  let whole := mantissa.takeWhile (· != '.')
  let fraction := mantissa.drop whole.length
  (wholeDigits? whole).isSome
    && (fraction.isEmpty || (digits? Char.isDigit (fraction.drop 1)).isSome)
    && (exponent.isEmpty || (digits? Char.isDigit (Decimal.sign (exponent.drop 1)).2).isSome)
    && !(fraction.isEmpty && exponent.isEmpty)

/-- A number with a fraction or an exponent, or a name of infinity or not-a-number. A number too large
for the format is refused. -/
def decimal? (cs : List Char) : Option Binary64 := do
  let (negative, body) := Decimal.sign cs
  if body = ['n', 'a', 'n'] then some .nan
  else if body = ['i', 'n', 'f'] then some (.infinite negative)
  else if isDecimal body then
    match ← Decimal.read? .double (String.ofList (cs.filter (· != '_'))) with
    | .infinite _ => none
    | x => some x
  else none

def afterDate (cs : List Char) : Option (List Char) := do
  let (year, cs) ← Instant.fixedDigits? 4 cs
  let cs ← Instant.char? ['-'] cs
  let (month, cs) ← Instant.fixedDigits? 2 cs
  let cs ← Instant.char? ['-'] cs
  let (day, cs) ← Instant.fixedDigits? 2 cs
  if (⟨year, month, day⟩ : Calendar.Date).valid then some cs else none

/-- What follows a time of day, whose seconds may be left out. -/
def afterTime (cs : List Char) : Option (List Char) := do
  let (hour, cs) ← Instant.fixedDigits? 2 cs
  let cs ← Instant.char? [':'] cs
  let (minute, cs) ← Instant.fixedDigits? 2 cs
  if 23 < hour ∨ 59 < minute then none
  else if cs.head? = some ':' then do
    let (second, cs) ← Instant.fixedDigits? 2 (cs.drop 1)
    let (_, cs) ← Instant.fraction? cs
    if second ≤ 60 then some cs else none
  else some cs

/-- What follows a date, a time of day, or both with an offset that may be left out. -/
def afterMoment (cs : List Char) : Option (List Char) :=
  match afterDate cs with
  | none => afterTime cs
  | some [] => some []
  | some cs => do
    let cs ← afterTime (← Instant.char? ['T', 't', ' '] cs)
    if cs.isEmpty then some [] else (Instant.offset? cs).map Prod.snd

def isWritten (c : Char) : Bool :=
  c.isAlphanum || ['_', '+', '-', '.', ':'].contains c

/-- The characters of the scalar at the front of a text. A blank may stand between a date and a time of
day. -/
def written (cs : List Char) : List Char :=
  let front := cs.takeWhile isWritten
  let after := cs.drop front.length
  let goesOn := afterDate front == some [] && after.head? == some ' '
    && !((after.drop 1).takeWhile Char.isDigit).isEmpty
  if goesOn then front ++ ' ' :: (after.drop 1).takeWhile isWritten else front

def ofWritten? (cs : List Char) : Option Toml :=
  if cs = ['t', 'r', 'u', 'e'] then some (.bool true)
  else if cs = ['f', 'a', 'l', 's', 'e'] then some (.bool false)
  else (integer? cs).map .integer
    <|> (decimal? cs).map .decimal
    <|> (if afterMoment cs = some [] then some (.moment (String.ofList cs)) else none)

def read? (cs : List Char) : Option (Toml × List Char) :=
  (ofWritten? (written cs)).map fun v => (v, cs.drop (written cs).length)

end Scalar
end Toml
end Joinery
