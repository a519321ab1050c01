import Joinery.Text.Hex

/-! Universally unique identifiers and their hexadecimal texts. -/
namespace Joinery

structure Uuid where
  bits : BitVec 128
deriving DecidableEq, Repr

namespace Uuid

def ofDigits? (ds : List Char) : Option Uuid :=
  if ds.length = 32 then (Text.hexNumber? ds).map fun n => ⟨BitVec.ofNat 128 n⟩ else none

/-- The digits of a text in the groups 8, 4, 4, 4 and 12. -/
def hyphenated? (s : List Char) : Option Uuid :=
  if s.length = 36 && s[8]? == some '-' && s[13]? == some '-' && s[18]? == some '-'
      && s[23]? == some '-' then
    ofDigits? (s.take 8 ++ (s.drop 9).take 4 ++ (s.drop 14).take 4 ++ (s.drop 19).take 4
      ++ s.drop 24)
  else none

/-- Reads 32 digits, or digits in groups, bare, in braces or as a resource name. -/
def parse? (s : String) : Option Uuid :=
  let cs := s.toList
  if cs.length = 32 then ofDigits? cs
  else if cs.length = 38 && cs.head? == some '\x7b' && cs.getLast? == some '\x7d' then
    hyphenated? ((cs.drop 1).take 36)
  else if cs.length = 45 && String.ofList (cs.take 9) == "urn:uuid:" then hyphenated? (cs.drop 9)
  else hyphenated? cs

def digits (u : Uuid) : List Char :=
  (List.range 32).map fun i => Text.hexDigit (u.bits.toNat / Nat.pow 16 (31 - i) % 16)

def text (u : Uuid) : String :=
  let ds := u.digits
  String.ofList (ds.take 8 ++ '-' :: (ds.drop 8).take 4 ++ '-' :: (ds.drop 12).take 4
    ++ '-' :: (ds.drop 16).take 4 ++ '-' :: ds.drop 20)

def isNil (u : Uuid) : Bool :=
  u.bits == 0

end Uuid
end Joinery
