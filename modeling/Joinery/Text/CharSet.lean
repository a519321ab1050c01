/-! Sets of characters as increasing lists of boundaries.
A character belongs to the set when an odd number of boundaries are at most its code point. -/
namespace Joinery
namespace Text

/-- The places where membership changes, in increasing order of code point. -/
structure CharSet where
  boundaries : Array Nat

def CharSet.containsNat (s : CharSet) (n : Nat) : Bool :=
  s.boundaries.foldl (fun inside b => if b ≤ n then !inside else inside) false

def CharSet.contains (s : CharSet) (c : Char) : Bool :=
  s.containsNat c.toNat

end Text
end Joinery
