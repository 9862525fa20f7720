import TableDiff.Calendar.Date
import TableDiff.Calendar.TimeOfDay

/-!
# Timestamps

A timestamp is a date with a time of day. A zoned timestamp is an instant, given by its reading in
UTC, together with an offset of less than a day. Within a day of the first and of the last date a
clock at the offset may show a day that is no date any more. Zoned timestamps are compared as
instants.
-/

namespace TableDiff.Calendar

/-- A date with a time of day. -/
structure Timestamp where
  date : Date
  time : TimeOfDay
  deriving DecidableEq

namespace Timestamp

def ofDate (d : Date) : Timestamp := ⟨d, .midnight⟩

/-- The order in time. -/
def compare (a b : Timestamp) : Ordering :=
  (a.date.compare b.date).then (a.time.compare b.time)

/-- The timestamp that lies the given seconds later, by less than a day; none where this is beyond
all dates. -/
def shift? (t : Timestamp) (seconds : Int) : Option Timestamp :=
  let moved := t.time.seconds + seconds
  let date? :=
    if moved < 0 then t.date.previous?
    else if moved < 86400 then some t.date
    else t.date.next?
  date?.map fun d => ⟨d, t.time.turned seconds⟩

/-- The timestamp that lies the given milliseconds after the start of 1970. -/
def ofEpochMillis? (millis : Int) : Option Timestamp :=
  let seconds := millis / 1000
  (Date.ofDayNumber? (seconds / 86400)).map fun d =>
    ⟨d, {
      seconds := (seconds % 86400).toNat
      nanos := (millis % 1000).toNat * 1000000
      seconds_lt := by omega
      nanos_lt := by omega }⟩

end Timestamp

/-- A timestamp with an offset from UTC, in seconds to the east. -/
structure ZonedTimestamp where
  utc : Timestamp
  offset : Int
  offset_lt : offset.natAbs < 86400
  deriving DecidableEq

namespace ZonedTimestamp

/-- The date and the time of day at the offset; none where the day is beyond all dates. -/
def reading? (z : ZonedTimestamp) : Option Timestamp := z.utc.shift? z.offset

/-- The day at the offset, which may be the one before the first date or the one after the last. -/
def day (z : ZonedTimestamp) : Day :=
  match z.reading? with
  | some t => t.date.toDay
  | none => if z.offset < 0 then ⟨Date.minYear - 1, 12, 31⟩ else ⟨Date.maxYear + 1, 1, 1⟩

/-- The time of day at the offset, which there also is on such a day. -/
def clock (z : ZonedTimestamp) : TimeOfDay := z.utc.time.turned z.offset

/-- A timestamp taken as a reading in UTC. -/
def ofUtc (t : Timestamp) : ZonedTimestamp := ⟨t, 0, by decide⟩

/-- A timestamp taken as a reading at the given offset. -/
def ofReading? (t : Timestamp) (offset : Int) : Option ZonedTimestamp :=
  if h : offset.natAbs < 86400 then (t.shift? (-offset)).map fun utc => ⟨utc, offset, h⟩ else none

/-- Whether two zoned timestamps are the same instant. -/
def same (a b : ZonedTimestamp) : Bool := a.utc == b.utc

/-- The order of the instants. -/
def compare (a b : ZonedTimestamp) : Ordering := a.utc.compare b.utc

end ZonedTimestamp

end TableDiff.Calendar
