/-!
# Dates

Dates of the Gregorian calendar, carried on without bound in both directions, and their numbers
counted from the first of January 1970. The count runs in years that begin in March, so that the
leap day comes last, and in cycles of four hundred years, which all have the same length.
-/

namespace RouterConf

/-- A day of a year and month, the two counted from one. -/
structure Date where
  year : Int
  month : Nat
  day : Nat
  deriving DecidableEq, Repr, Inhabited

namespace Date

def isLeap (year : Int) : Bool :=
  year % 4 = 0 && (year % 100 ≠ 0 || year % 400 = 0)

def daysInMonth (year : Int) (month : Nat) : Nat :=
  if month = 2 then (if isLeap year then 29 else 28)
  else if [4, 6, 9, 11].contains month then 30
  else 31

/-- Whether a date is on the calendar. -/
def isValid (d : Date) : Bool :=
  1 ≤ d.month && d.month ≤ 12 && 1 ≤ d.day && d.day ≤ daysInMonth d.year d.month

/-- The number of days of four hundred years. -/
def cycle : Int :=
  146097

/-- The number of the first of January 1970 when counting from the first of March of year zero. -/
def epoch : Int :=
  719468

/-- The number of a date, counted from the first of January 1970. -/
def number (d : Date) : Int :=
  let year := if d.month ≤ 2 then d.year - 1 else d.year
  let month : Int := if d.month ≤ 2 then d.month + 9 else d.month - 3
  let ofCycle := year % 400
  let ofYear := (153 * month + 2) / 5 + d.day - 1
  year / 400 * cycle + (ofCycle * 365 + ofCycle / 4 - ofCycle / 100 + ofYear) - epoch

def ofNumber (n : Int) : Date :=
  let shifted := n + epoch
  let inCycle := shifted % cycle
  let ofCycle := (inCycle - inCycle / 1460 + inCycle / 36524 - inCycle / 146096) / 365
  let inYear := inCycle - (365 * ofCycle + ofCycle / 4 - ofCycle / 100)
  let month := (5 * inYear + 2) / 153
  let year := shifted / cycle * 400 + ofCycle
  { year := if month < 10 then year else year + 1
    month := (if month < 10 then month + 3 else month - 9).toNat
    day := (inYear - (153 * month + 2) / 5 + 1).toNat }

end Date

end RouterConf
