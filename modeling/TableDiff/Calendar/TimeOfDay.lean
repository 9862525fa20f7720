/-!
# Times of day

A time of day is a second of the day and nanoseconds in it. A leap second is kept as the second that
it follows, with a thousand million nanoseconds or more. It may follow any second: on a clock whose
offset from UTC is no whole number of minutes, minutes do not end where they do in UTC. After the
last second of a minute it is read off as second 60, and else like the ordinary second after it.
-/

namespace TableDiff.Calendar

/-- A time of day. -/
structure TimeOfDay where
  seconds : Nat
  nanos : Nat
  seconds_lt : seconds < 86400
  nanos_lt : nanos < 2000000000
  deriving DecidableEq

namespace TimeOfDay

def midnight : TimeOfDay := ⟨0, 0, by decide, by decide⟩

def hour (t : TimeOfDay) : Nat := t.seconds / 3600

def minute (t : TimeOfDay) : Nat := t.seconds / 60 % 60

/-- The second of the minute; a leap second counts as the next one, which is 60 at the end. -/
def second (t : TimeOfDay) : Nat := t.seconds % 60 + t.nanos / 1000000000

/-- The nanoseconds of the second, below a thousand million also in a leap second. -/
def fraction (t : TimeOfDay) : Nat := t.nanos % 1000000000

/-- The time with these parts if there is one; second 60 is a leap second. -/
def ofParts? (hour minute second fraction : Nat) : Option TimeOfDay :=
  if h : hour < 24 ∧ minute < 60 ∧ second ≤ 60 ∧ fraction < 1000000000 then
    let extra := if second = 60 then 1 else 0
    some {
      seconds := hour * 3600 + minute * 60 + (second - extra)
      nanos := extra * 1000000000 + fraction
      seconds_lt := by simp only [extra]; split <;> omega
      nanos_lt := by simp only [extra]; split <;> omega }
  else none

/-- The time that a clock shows when it is moved by some seconds, past midnight if need be. A leap
second stays one. -/
def turned (t : TimeOfDay) (seconds : Int) : TimeOfDay :=
  ⟨((t.seconds + seconds) % 86400).toNat, t.nanos, by omega, t.nanos_lt⟩

/-- The order in time. -/
def compare (a b : TimeOfDay) : Ordering :=
  (Ord.compare a.seconds b.seconds).then (Ord.compare a.nanos b.nanos)

end TimeOfDay

end TableDiff.Calendar
