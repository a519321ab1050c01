/-! Days of the proleptic Gregorian calendar, counted from 1970-01-01. -/
namespace Joinery
namespace Calendar

structure Date where
  year : Int
  month : Nat
  day : Nat
deriving DecidableEq, Repr

def isLeap (year : Int) : Bool :=
  (year % 4 == 0 && year % 100 != 0) || year % 400 == 0

def monthLength (year : Int) (month : Nat) : Nat :=
  if month = 2 then (if isLeap year then 29 else 28)
  else if month = 4 ∨ month = 6 ∨ month = 9 ∨ month = 11 then 30 else 31

def Date.valid (d : Date) : Bool :=
  decide (1 ≤ d.month) && decide (d.month ≤ 12) && decide (1 ≤ d.day)
    && decide (d.day ≤ monthLength d.year d.month)

/-- Days before the month in a year that begins with March. -/
def daysBeforeMonth (monthFromMarch : Nat) : Nat :=
  (153 * monthFromMarch + 2) / 5

/-- The number of a day. Years are taken to begin with March, so that a leap day ends its year. -/
def Date.toDay (d : Date) : Int :=
  let year := if d.month ≤ 2 then d.year - 1 else d.year
  let month := (d.month + 9) % 12
  365 * year + Int.fdiv year 4 - Int.fdiv year 100 + Int.fdiv year 400
    + (daysBeforeMonth month : Int) + (d.day : Int) - 719469

/-- The date of a day: its era of 400 years, its year in the era, and its day in the year. -/
def Date.ofDay (day : Int) : Date :=
  let z := day + 719468
  let era := Int.fdiv z 146097
  let inEra := (Int.fmod z 146097).toNat
  let yearInEra := (inEra - inEra / 1460 + inEra / 36524 - inEra / 146096) / 365
  let inYear := inEra - (365 * yearInEra + yearInEra / 4 - yearInEra / 100)
  let monthFromMarch := (5 * inYear + 2) / 153
  let dayOfMonth := inYear - daysBeforeMonth monthFromMarch + 1
  let month := if monthFromMarch < 10 then monthFromMarch + 3 else monthFromMarch - 9
  let year := (yearInEra : Int) + era * 400
  ⟨if month ≤ 2 then year + 1 else year, month, dayOfMonth⟩

end Calendar
end Joinery
