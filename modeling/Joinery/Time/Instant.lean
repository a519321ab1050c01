import Joinery.Decimal.Shortest
import Joinery.Time.Calendar

/-! Instants in universal time, and their texts as dates and times of day.
A leap second is an instant of its own, after the last ordinary second of its minute. -/
namespace Joinery

/-- A day counted from 1970-01-01, a second of the day, a fraction, and whether the second is a leap
second that follows the one counted. -/
structure Instant where
  day : Int
  second : Nat
  nanosecond : Nat
  leap : Bool
deriving DecidableEq, Repr

namespace Instant

/-- The number of exactly `count` digits at the front of a text, and the rest. -/
def fixedDigits? (count : Nat) (s : List Char) : Option (Nat × List Char) :=
  let ds := s.take count
  if ds.length = count && ds.all Char.isDigit then
    some (ds.foldl (fun n c => 10 * n + (c.toNat - 48)) 0, s.drop count)
  else none

def char? (expected : List Char) : List Char → Option (List Char)
  | [] => none
  | c :: rest => if expected.contains c then some rest else none

/-- Nine places of an optional fraction; further digits are dropped. -/
def fraction? : List Char → Option (Nat × List Char)
  | '.' :: rest =>
    let ds := rest.takeWhile Char.isDigit
    if ds.isEmpty then none
    else
      let places := ds.take 9
      let value := places.foldl (fun n c => 10 * n + (c.toNat - 48)) 0
      some (value * Nat.pow 10 (9 - places.length), rest.dropWhile Char.isDigit)
  | rest => some (0, rest)

/-- Seconds east of universal time: `Z`, or a sign, hours and minutes. -/
def offset? : List Char → Option (Int × List Char)
  | [] => none
  | c :: rest =>
    if c = 'Z' ∨ c = 'z' then some (0, rest)
    else if c = '+' ∨ c = '-' ∨ c = '−' then do
      let (hours, rest) ← fixedDigits? 2 rest
      let rest ← char? [':'] rest
      let (minutes, rest) ← fixedDigits? 2 rest
      if 23 < hours ∨ 59 < minutes then none
      else
        let seconds : Int := (hours * 60 + minutes) * 60
        some (if c = '+' then seconds else -seconds, rest)
    else none

/-- A date, one of the separators, and a time of day, taken as universal time. -/
def local? (separators : List Char) (s : List Char) : Option (Instant × List Char) := do
  let (year, s) ← fixedDigits? 4 s
  let s ← char? ['-'] s
  let (month, s) ← fixedDigits? 2 s
  let s ← char? ['-'] s
  let (day, s) ← fixedDigits? 2 s
  let s ← char? separators s
  let (hour, s) ← fixedDigits? 2 s
  let s ← char? [':'] s
  let (minute, s) ← fixedDigits? 2 s
  let s ← char? [':'] s
  let (second, s) ← fixedDigits? 2 s
  let (nanosecond, s) ← fraction? s
  let date : Calendar.Date := ⟨year, month, day⟩
  if !date.valid || 23 < hour || 59 < minute || 60 < second then none
  else
    let ordinary := min second 59
    some (⟨date.toDay, (hour * 60 + minute) * 60 + ordinary, nanosecond, second == 60⟩, s)

/-- The instant a number of seconds earlier. -/
def minusSeconds (t : Instant) (seconds : Int) : Instant :=
  let total := (t.second : Int) - seconds
  { t with day := t.day + Int.fdiv total 86400, second := (Int.fmod total 86400).toNat }

def parse? (s : String) : Option Instant := do
  let (t, rest) ← local? ['T', 't', ' '] s.toList
  let (offset, rest) ← offset? rest
  if rest.isEmpty then some (t.minusSeconds offset) else none

def parseUniversal? (s : String) : Option Instant := do
  let (t, rest) ← local? ['T'] s.toList
  if rest.isEmpty then some t else none

def padded (width n : Nat) : String :=
  let ds := Decimal.natDigits n
  String.ofList (List.replicate (width - ds.length) '0' ++ ds)

/-- Four digits for the years 0 to 9999, and a sign in front of any other year. -/
def yearText (year : Int) : String :=
  if 0 ≤ year ∧ year ≤ 9999 then padded 4 year.natAbs
  else (if year < 0 then "-" else "+") ++ padded 4 year.natAbs

/-- The fewest of 0, 3, 6 or 9 places that are exact. -/
def fractionText (nanosecond : Nat) : String :=
  if nanosecond = 0 then ""
  else if nanosecond % 1000000 = 0 then "." ++ padded 3 (nanosecond / 1000000)
  else if nanosecond % 1000 = 0 then "." ++ padded 6 (nanosecond / 1000)
  else "." ++ padded 9 nanosecond

def textWith (mark : String) (t : Instant) : String :=
  let date := Calendar.Date.ofDay t.day
  yearText date.year ++ "-" ++ padded 2 date.month ++ "-" ++ padded 2 date.day ++ "T"
    ++ padded 2 (t.second / 3600) ++ ":" ++ padded 2 (t.second / 60 % 60) ++ ":"
    ++ padded 2 (t.second % 60 + (if t.leap then 1 else 0)) ++ fractionText t.nanosecond ++ mark

def text (t : Instant) : String :=
  t.textWith "+00:00"

end Instant
end Joinery
