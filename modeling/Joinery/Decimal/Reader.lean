import Joinery.Decimal.Binary64

/-! Reading decimal numbers.
A number is an optional sign and either a name of infinity or not-a-number, or digits with an optional
point and an optional exponent; its value is rounded to the nearest number of the format. -/
namespace Joinery
namespace Decimal

def sign : List Char → Bool × List Char
  | '-' :: rest => (true, rest)
  | '+' :: rest => (false, rest)
  | rest => (false, rest)

def digitsValue (ds : List Char) : Nat :=
  ds.foldl (fun n c => 10 * n + (c.toNat - 48)) 0

def length (n : Nat) : Nat :=
  if n < 10 then 1 else length (n / 10) + 1

/-- The value of an exponent mark and its digits, zero where there is no mark. -/
def exponent? : List Char → Option Int
  | [] => some 0
  | c :: rest =>
    if c = 'e' ∨ c = 'E' then
      let (negative, ds) := sign rest
      if ds.isEmpty || !ds.all Char.isDigit then none
      else some (if negative then -(digitsValue ds : Int) else (digitsValue ds : Int))
    else none

/-- Rounds `digits * 10 ^ exponent`; magnitudes far outside the format need no arithmetic. -/
def round (f : BinaryFormat) (negative : Bool) (digits : Nat) (exponent : Int) : Binary64 :=
  if digits = 0 then .finite negative 0 0
  else if (length digits : Int) + exponent > 310 then .infinite negative
  else if (length digits : Int) + exponent < -330 then .finite negative 0 0
  else if exponent < 0 then Binary64.ofFraction f negative digits (Nat.pow 10 exponent.natAbs)
  else Binary64.ofFraction f negative (digits * Nat.pow 10 exponent.natAbs) 1

def read? (f : BinaryFormat) (s : String) : Option Binary64 :=
  let (negative, body) := sign s.toList
  let folded := String.ofList (body.map Char.toLower)
  if folded = "nan" then some .nan
  else if folded = "inf" ∨ folded = "infinity" then some (.infinite negative)
  else
    let whole := body.takeWhile Char.isDigit
    let rest := body.dropWhile Char.isDigit
    let (fraction, rest) :=
      match rest with
      | '.' :: rest => (rest.takeWhile Char.isDigit, rest.dropWhile Char.isDigit)
      | _ => ([], rest)
    if whole.isEmpty && fraction.isEmpty then none
    else (exponent? rest).map fun e =>
      round f negative (digitsValue (whole ++ fraction)) (e - fraction.length)

end Decimal
end Joinery
