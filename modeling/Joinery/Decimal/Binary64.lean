/-! Double-precision numbers as signs, mantissas and exponents.
A finite number is its mantissa times a power of two, counted from the smallest positive one. -/
namespace Joinery

/-- A floating-point number; a finite one has the magnitude `mantissa * 2 ^ scale / 2 ^ 1074`. -/
inductive Binary64 where
  | nan
  | infinite (negative : Bool)
  | finite (negative : Bool) (mantissa scale : Nat)
deriving DecidableEq, Repr

/-- A binary format: the bits of a mantissa, the unit `2 ^ -unit` of the smallest numbers, and the
scale of the largest. -/
structure BinaryFormat where
  precision : Nat
  unit : Nat
  maxScale : Nat

namespace BinaryFormat

def double : BinaryFormat := ⟨53, 1074, 2045⟩

def single : BinaryFormat := ⟨24, 149, 253⟩

end BinaryFormat

def divNearestEven (num den : Nat) : Nat :=
  let q := num / den
  let twice := 2 * (num % den)
  if twice < den then q else if den < twice then q + 1 else q + q % 2

def bitLength (n : Nat) : Nat :=
  if n = 0 then 0 else n.log2 + 1

namespace Binary64

/-- The number `mantissa * 2 ^ scale / 2 ^ 1074` with as many mantissa bits as fit. -/
def normal (negative : Bool) (mantissa scale : Nat) : Binary64 :=
  let room := min scale (53 - bitLength mantissa)
  .finite negative (mantissa * Nat.pow 2 room) (scale - room)

/-- The nearest number of a format to the positive fraction `num / den`, as a double. -/
def ofFraction (f : BinaryFormat) (negative : Bool) (num den : Nat) : Binary64 :=
  let units := num * Nat.pow 2 f.unit
  let scale := bitLength (units / den) - f.precision
  let rounded := divNearestEven units (den * Nat.pow 2 scale)
  let (mantissa, scale) :=
    if rounded = Nat.pow 2 f.precision then (rounded / 2, scale + 1) else (rounded, scale)
  if f.maxScale < scale then .infinite negative
  else normal negative mantissa (scale + (1074 - f.unit))

/-- Numeric equality: nothing equals `nan`, and the zeros are equal. -/
def numEq : Binary64 → Binary64 → Bool
  | .nan, _ => false
  | _, .nan => false
  | .infinite a, .infinite b => a == b
  | .finite a m s, .finite b n t => (m == 0 && n == 0) || (a == b && m == n && s == t)
  | _, _ => false

end Binary64
end Joinery
