/-!
# Dates

Days of the Gregorian calendar, extended without change to all years from `Date.minYear` to
`Date.maxYear`. A date is its year, month and day; every date is one that the calendar has.
-/

namespace TableDiff.Calendar

def isLeapYear (year : Int) : Bool :=
  year % 4 = 0 && (year % 100 ≠ 0 || year % 400 = 0)

/-- The number of days of a month, the months counted from one. -/
def daysInMonth (year : Int) (month : Nat) : Nat :=
  if month = 2 then if isLeapYear year then 29 else 28
  else if month = 4 ∨ month = 6 ∨ month = 9 ∨ month = 11 then 30
  else 31

/-- The first year that dates reach. -/
def Date.minYear : Int := -262143

/-- The last year that dates reach. -/
def Date.maxYear : Int := 262142

/-- Whether the calendar has a day of this year, month and day of the month. -/
structure IsDate (year : Int) (month day : Nat) : Prop where
  minYear_le : Date.minYear ≤ year
  le_maxYear : year ≤ Date.maxYear
  one_le_month : 1 ≤ month
  month_le : month ≤ 12
  one_le_day : 1 ≤ day
  day_le : day ≤ daysInMonth year month

theorem isDate_iff {year : Int} {month day : Nat} :
    IsDate year month day ↔ Date.minYear ≤ year ∧ year ≤ Date.maxYear ∧ 1 ≤ month ∧ month ≤ 12 ∧
      1 ≤ day ∧ day ≤ daysInMonth year month :=
  ⟨fun ⟨a, b, c, d, e, f⟩ => ⟨a, b, c, d, e, f⟩, fun ⟨a, b, c, d, e, f⟩ => ⟨a, b, c, d, e, f⟩⟩

instance (year : Int) (month day : Nat) : Decidable (IsDate year month day) :=
  decidable_of_iff' _ isDate_iff

/-- A year, a month and a day of the month, which need not make a date. -/
structure Day where
  year : Int
  month : Nat
  day : Nat
  deriving DecidableEq, Repr

/-- A day of the calendar. -/
structure Date where
  year : Int
  month : Nat
  day : Nat
  isDate : IsDate year month day
  deriving DecidableEq

namespace Date

def toDay (d : Date) : Day := ⟨d.year, d.month, d.day⟩

/-- The date with these parts if the calendar has it. -/
def ofParts? (year : Int) (month day : Nat) : Option Date :=
  if h : IsDate year month day then some ⟨year, month, day, h⟩ else none

theorem ofParts?_self (d : Date) : ofParts? d.year d.month d.day = some d := by
  simp [ofParts?, d.isDate]

/-- The next day, none after the last date. -/
def next? (d : Date) : Option Date :=
  if d.day < daysInMonth d.year d.month then ofParts? d.year d.month (d.day + 1)
  else if d.month < 12 then ofParts? d.year (d.month + 1) 1
  else ofParts? (d.year + 1) 1 1

/-- The day before, none before the first date. -/
def previous? (d : Date) : Option Date :=
  if 1 < d.day then ofParts? d.year d.month (d.day - 1)
  else if 1 < d.month then ofParts? d.year (d.month - 1) (daysInMonth d.year (d.month - 1))
  else ofParts? (d.year - 1) 12 31

/-- The date that lies the given number of days after the first of January 1970. The days are
counted in cycles of 400 years whose years begin in March, so that a leap day ends its year. -/
def ofDayNumber? (n : Int) : Option Date :=
  let shifted := n + 719468
  let cycle := shifted / 146097
  let dayOfCycle := shifted % 146097
  let yearOfCycle :=
    (dayOfCycle - dayOfCycle / 1460 + dayOfCycle / 36524 - dayOfCycle / 146096) / 365
  let dayOfYear := dayOfCycle - (365 * yearOfCycle + yearOfCycle / 4 - yearOfCycle / 100)
  let monthFromMarch := (5 * dayOfYear + 2) / 153
  let day := dayOfYear - (153 * monthFromMarch + 2) / 5 + 1
  let month := if monthFromMarch < 10 then monthFromMarch + 3 else monthFromMarch - 9
  let year := yearOfCycle + cycle * 400 + (if month ≤ 2 then 1 else 0)
  ofParts? year month.toNat day.toNat

/-- The order in time. -/
def compare (a b : Date) : Ordering :=
  (Ord.compare a.year b.year).then ((Ord.compare a.month b.month).then (Ord.compare a.day b.day))

end Date

end TableDiff.Calendar
