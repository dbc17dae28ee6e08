import Fanout.Text.Line

/-!
# Dates and times of day

Dates of the Gregorian calendar, carried on before its beginning, in the range of years that a log
can be dated by; and how a date and a moment are written where they have to sort as text.
-/
namespace Fanout

structure Date where
  year : Int
  month : Nat
  day : Nat
  deriving DecidableEq, Repr

namespace Date

def isLeap (year : Int) : Bool :=
  year % 4 = 0 ∧ (year % 100 ≠ 0 ∨ year % 400 = 0)

def monthLength (year : Int) (month : Nat) : Nat :=
  match month with
  | 2 => if isLeap year then 29 else 28
  | 4 | 6 | 9 | 11 => 30
  | _ => 31

def firstYear : Int := -262143

def lastYear : Int := 262142

/-- The date of a year, a month and a day, if there is such a day. -/
def ofParts? (year : Int) (month day : Nat) : Option Date :=
  if firstYear ≤ year ∧ year ≤ lastYear ∧ 1 ≤ month ∧ month ≤ 12 ∧ 1 ≤ day ∧
      day ≤ monthLength year month then some ⟨year, month, day⟩
  else none

/-- A number with leading zeros. -/
def digits (width n : Nat) : String :=
  Text.padLeft width '0' (toString n)

/-- A year has four digits; one that needs more, or is before year 0, has a sign. -/
def yearText (year : Int) : String :=
  if 0 ≤ year ∧ year ≤ 9999 then digits 4 year.natAbs
  else (if year < 0 then "-" else "+") ++ digits 4 year.natAbs

/-- The date without separators. -/
def compact (d : Date) : String :=
  yearText d.year ++ digits 2 d.month ++ digits 2 d.day

end Date

/-- A date and a time of day, to the second. -/
structure Moment where
  date : Date
  hour : Nat
  minute : Nat
  second : Nat
  deriving DecidableEq, Repr

/-- The date and the parts of the time, with colons between them. -/
def Moment.stamp (m : Moment) : String :=
  ":".intercalate
    [m.date.compact, Date.digits 2 m.hour, Date.digits 2 m.minute, Date.digits 2 m.second]

end Fanout
