import Joinery.Decimal.Shortest

/-! Layouts of decimal numbers: where the point stands and when an exponent is written. -/
namespace Joinery
namespace Decimal

structure Layout where
  tie : Tie
  /-- The powers of ten of the first digit that are written without an exponent. -/
  positional : Int → Bool
  /-- Whether a whole number gets a zero after the point. -/
  keepsPoint : Bool

namespace Layout

def plain : Layout := ⟨.up, fun _ => true, false⟩

/-- The format of JSON documents: an exponent from `10 ^ 16` up and below `10 ^ -5`. -/
def json : Layout := ⟨.even, fun e => decide (-5 ≤ e) && decide (e < 16), true⟩

end Layout

def zeros (n : Nat) : List Char :=
  List.replicate n '0'

def positionalText (keepsPoint : Bool) (d : Digits) : List Char :=
  if d.point ≤ 0 then '0' :: '.' :: zeros d.point.natAbs ++ d.digits
  else
    let whole := d.point.toNat
    if whole < d.digits.length then d.digits.take whole ++ '.' :: d.digits.drop whole
    else d.digits ++ zeros (whole - d.digits.length) ++ (if keepsPoint then ['.', '0'] else [])

/-- One digit before the point, the others after it, and the signed exponent. -/
def exponentText (d : Digits) : List Char :=
  let e := d.point - 1
  let mantissa :=
    match d.digits with
    | [] => []
    | [c] => [c]
    | c :: rest => c :: '.' :: rest
  mantissa ++ 'e' :: (if e < 0 then '-' else '+') :: natDigits e.natAbs

def Layout.finiteText (l : Layout) (negative : Bool) (mantissa scale : Nat) : String :=
  let body :=
    if mantissa = 0 then '0' :: (if l.keepsPoint then ['.', '0'] else [])
    else
      let d := shortest l.tie mantissa scale
      if l.positional (d.point - 1) then positionalText l.keepsPoint d else exponentText d
  String.ofList ((if negative then ['-'] else []) ++ body)

def plainText : Binary64 → String
  | .nan => "NaN"
  | .infinite negative => if negative then "-inf" else "inf"
  | .finite negative mantissa scale => Layout.plain.finiteText negative mantissa scale

/-- The JSON text of any number; what is not finite has none but `null`. -/
def jsonText : Binary64 → String
  | .nan => "null"
  | .infinite _ => "null"
  | .finite negative mantissa scale => Layout.json.finiteText negative mantissa scale

end Decimal
end Joinery
