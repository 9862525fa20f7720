import TableDiff.Calendar.Pattern

/-!
# Readings of date and time text

Two families of forms are read. The loose ones are what a cell may hold: a date, a time with or
without seconds, a timestamp with a blank or a `T`, and several ways to append an offset. The
interchange forms are those in which values are stored as structured data.
-/

namespace TableDiff.Calendar

open TableDiff.Text

/-! ## Pieces by name -/

namespace Piece

def year : Piece := .lenient .year
def month : Piece := .lenient .month
def day : Piece := .lenient .day
def hour : Piece := .lenient .hour
def minute : Piece := .lenient .minute
def second : Piece := .lenient .second

/-- One certain character. -/
def only (c : Char) : Piece := .mark [c]

end Piece

/-! ## What a cell may hold -/

namespace Pattern

/-- Year, month and day with hyphens. -/
def date : Pattern := [.year, .only '-', .month, .only '-', .day]

/-- Hours, minutes and seconds with a fraction. -/
def time : Pattern := [.hour, .only ':', .minute, .only ':', .second, .fraction]

/-- Hours and minutes. -/
def shortTime : Pattern := [.hour, .only ':', .minute]

/-- The three forms of a timestamp, in the order in which they are tried. -/
def timestamps : List Pattern :=
  [date ++ [.blanks] ++ time, date ++ [.only 'T'] ++ time, date ++ [.blanks] ++ shortTime]

/-- The strict form with a `T`, a colon in the offset and `Z` for UTC. -/
def strictZoned : Pattern :=
  [.strict .year, .only '-', .strict .month, .only '-', .strict .day, .mark ['T', 't', ' '],
    .strict .hour, .only ':', .strict .minute, .only ':', .strict .second, .fraction,
    .offset ⟨true, false, false⟩]

/-- The forms of a zoned timestamp, in the order in which they are tried. -/
def zoned : List Pattern :=
  [strictZoned, date ++ [.blanks] ++ time ++ [.blanks, .offset ⟨false, false, true⟩]]

end Pattern

/-- A date with hyphens. -/
def Date.ofText? (cs : List Char) : Option Date := (Pattern.date.read? cs).bind Fields.date?

/-- A time with colons, with or without seconds. -/
def TimeOfDay.ofText? (cs : List Char) : Option TimeOfDay :=
  [Pattern.time, Pattern.shortTime].findSome? fun p => (p.read? cs).bind Fields.time?

/-- A timestamp in one of its forms, or a date alone for its midnight. -/
def Timestamp.ofText? (cs : List Char) : Option Timestamp :=
  match Pattern.timestamps.findSome? fun p => (p.read? cs).bind Fields.timestamp? with
  | some t => some t
  | none => (Date.ofText? cs).map Timestamp.ofDate

/-- A timestamp with an offset in one of its forms, or one without for UTC. -/
def ZonedTimestamp.ofText? (cs : List Char) : Option ZonedTimestamp :=
  match Pattern.zoned.findSome? fun p => (p.read? cs).bind Fields.zoned? with
  | some z => some z
  | none => (Timestamp.ofText? cs).map ZonedTimestamp.ofUtc

/-! ## Interchange forms -/

namespace Pattern

/-- A date with blanks allowed before and after its numbers. -/
def spacedDate : Pattern := [.year, .blanks, .only '-', .month, .blanks, .only '-', .day]

/-- Hours and minutes with blanks allowed around them. -/
def spacedShortTime : Pattern := [.hour, .blanks, .only ':', .minute]

/-- Seconds with a fraction, the colon before them included. -/
def spacedSeconds : Pattern := [.blanks, .only ':', .second, .fraction, .blanks]

/-- A date with blanks allowed around its numbers. -/
def interchangeDate : Pattern := spacedDate ++ [.blanks]

/-- A time, with or without seconds, with blanks allowed around its numbers. -/
def interchangeTimes : List Pattern :=
  [spacedShortTime ++ spacedSeconds ++ [.blanks], spacedShortTime ++ [.blanks]]

/-- A date and a time with a `T` between them. -/
def interchangeTimestamp : Pattern :=
  spacedDate ++ [.blanks, .only 'T'] ++ spacedShortTime ++ spacedSeconds

/-- A date and a time with an offset. -/
def interchangeZoned : Pattern :=
  spacedDate ++ [.mark ['T', 't', ' ']] ++ spacedShortTime ++ spacedSeconds ++
    [.blanks, .offset ⟨true, true, true⟩, .blanks]

end Pattern

def Date.ofInterchange? (cs : List Char) : Option Date :=
  (Pattern.interchangeDate.read? cs).bind Fields.date?

def TimeOfDay.ofInterchange? (cs : List Char) : Option TimeOfDay :=
  Pattern.interchangeTimes.findSome? fun p => (p.read? cs).bind Fields.time?

def Timestamp.ofInterchange? (cs : List Char) : Option Timestamp :=
  (Pattern.interchangeTimestamp.read? cs).bind Fields.timestamp?

def ZonedTimestamp.ofInterchange? (cs : List Char) : Option ZonedTimestamp :=
  (Pattern.interchangeZoned.read? cs).bind Fields.zoned?

end TableDiff.Calendar
