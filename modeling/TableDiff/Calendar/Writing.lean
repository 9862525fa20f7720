import TableDiff.Calendar.Timestamp
import TableDiff.Text.Digits

/-!
# Written dates and times

A year from 0 to 9999 has four digits; any other year has a sign and at least four digits. The
fraction of a second has no, three, six or nine digits, the fewest that are exact. No form tells a
leap second inside a minute from the ordinary second after it, and none has the seconds of an offset.
-/

namespace TableDiff.Calendar

open TableDiff.Text

/-- A year with at least four digits, and a sign if it is negative or has more. -/
def yearText (year : Int) : List Char :=
  let ds := paddedDigits 4 year.natAbs
  if year < 0 then '-' :: ds else if year ≤ 9999 then ds else '+' :: ds

def Day.text (d : Day) : List Char :=
  yearText d.year ++ '-' :: paddedDigits 2 d.month ++ '-' :: paddedDigits 2 d.day

def Date.text (d : Date) : List Char := d.toDay.text

/-- A point and the fewest of three, six or nine digits; nothing for zero. -/
def fractionText (nanos : Nat) : List Char :=
  if nanos = 0 then []
  else if nanos % 1000000 = 0 then '.' :: paddedDigits 3 (nanos / 1000000)
  else if nanos % 1000 = 0 then '.' :: paddedDigits 6 (nanos / 1000)
  else '.' :: paddedDigits 9 nanos

def TimeOfDay.text (t : TimeOfDay) : List Char :=
  paddedDigits 2 t.hour ++ ':' :: paddedDigits 2 t.minute ++ ':' :: paddedDigits 2 t.second ++
    fractionText t.fraction

/-- The date and the time with the given character between them. -/
def Timestamp.textWith (separator : Char) (t : Timestamp) : List Char :=
  t.date.text ++ separator :: t.time.text

/-- The form with a blank between date and time. -/
def Timestamp.text (t : Timestamp) : List Char := t.textWith ' '

/-- The interchange form, with a `T` between date and time. -/
def Timestamp.interchange (t : Timestamp) : List Char := t.textWith 'T'

/-- An offset in seconds as a sign, hours, a colon and minutes, rounded to whole minutes. -/
def offsetText (seconds : Int) : List Char :=
  let minutes := (seconds.natAbs + 30) / 60
  (if seconds < 0 then '-' else '+') ::
    (paddedDigits 2 (minutes / 60) ++ ':' :: paddedDigits 2 (minutes % 60))

/-- The day and the time at the offset, with a `T` between them. -/
def ZonedTimestamp.clockText (z : ZonedTimestamp) : List Char :=
  z.day.text ++ 'T' :: z.clock.text

/-- The day and the time at the offset, followed by the offset. -/
def ZonedTimestamp.text (z : ZonedTimestamp) : List Char := z.clockText ++ offsetText z.offset

/-- The interchange form, which writes `Z` for the offset zero. -/
def ZonedTimestamp.interchange (z : ZonedTimestamp) : List Char :=
  z.clockText ++ (if z.offset = 0 then ['Z'] else offsetText z.offset)

end TableDiff.Calendar
