import Mathlib.Logic.Basic
import TableDiff.Calendar.Timestamp

/-!
# Moving a clock there and back

The day before the next day is the day itself, and the other way round (`previous?_of_next?`,
`next?_of_previous?`). So a timestamp that is moved by some seconds is moved back by as many
(`shift?_neg`), and a zoned timestamp is given by its reading, if there is one, and its offset
(`ofReading?_of_reading?`). The reading is the one in UTC only where the offset is zero
(`reading?_eq_utc_iff`).
-/

namespace TableDiff.Calendar

/-! ## Neighbouring days -/

namespace Date

variable {d e : Date} {year : Int} {month day : Nat}

theorem ofParts?_eq_some : ofParts? year month day = some e ↔
    e.year = year ∧ e.month = month ∧ e.day = day := by
  constructor
  · intro h
    unfold ofParts? at h
    split at h
    · cases h
      exact ⟨rfl, rfl, rfl⟩
    · cases h
  · rintro ⟨rfl, rfl, rfl⟩
    exact ofParts?_self e

theorem daysInMonth_december (year : Int) : daysInMonth year 12 = 31 := rfl

theorem previous?_of_next? (h : d.next? = some e) : e.previous? = some d := by
  have hd := d.isDate
  unfold next? at h
  unfold previous?
  rw [apply_ite (· = some e), apply_ite (· = some e), ofParts?_eq_some, ofParts?_eq_some,
    ofParts?_eq_some] at h
  split at h
  next hday =>
    obtain ⟨hyear, hmonth, hnext⟩ := h
    have hmore : 1 < e.day := by
      have := hd.one_le_day
      omega
    rw [if_pos hmore, ofParts?_eq_some]
    exact ⟨hyear.symm, hmonth.symm, by omega⟩
  next hday =>
    have hlast : d.day = daysInMonth d.year d.month := by
      have := hd.day_le
      omega
    split at h
    next hmonth =>
      obtain ⟨hyear, hnext, hfirst⟩ := h
      have hmore : 1 < e.month := by
        have := hd.one_le_month
        omega
      have hback : e.month - 1 = d.month := by omega
      rw [if_neg (by omega), if_pos hmore, ofParts?_eq_some, hback, hyear]
      exact ⟨rfl, rfl, hlast⟩
    next hmonth =>
      obtain ⟨hyear, hnext, hfirst⟩ := h
      have hdecember : d.month = 12 := by
        have := hd.month_le
        omega
      rw [hdecember, daysInMonth_december] at hlast
      rw [if_neg (by omega), if_neg (by omega), ofParts?_eq_some]
      exact ⟨by omega, hdecember, hlast⟩

theorem next?_of_previous? (h : d.previous? = some e) : e.next? = some d := by
  have hd := d.isDate
  unfold previous? at h
  unfold next?
  rw [apply_ite (· = some e), apply_ite (· = some e), ofParts?_eq_some, ofParts?_eq_some,
    ofParts?_eq_some] at h
  split at h
  next hday =>
    obtain ⟨hyear, hmonth, hback⟩ := h
    have hmore : e.day < daysInMonth e.year e.month := by
      have := hd.day_le
      rw [hyear, hmonth]
      omega
    rw [if_pos hmore, ofParts?_eq_some]
    exact ⟨hyear.symm, hmonth.symm, by omega⟩
  next hday =>
    have hfirst : d.day = 1 := by
      have := hd.one_le_day
      omega
    split at h
    next hmonth =>
      obtain ⟨hyear, hback, hlast⟩ := h
      have hless : e.month < 12 := by
        have := hd.month_le
        omega
      have hnomore : ¬ e.day < daysInMonth e.year e.month := by
        rw [hlast, hyear, hback]
        exact Nat.lt_irrefl _
      rw [if_neg hnomore, if_pos hless, ofParts?_eq_some]
      exact ⟨hyear.symm, by omega, hfirst⟩
    next hmonth =>
      obtain ⟨hyear, hback, hlast⟩ := h
      have hjanuary : d.month = 1 := by
        have := hd.one_le_month
        omega
      have hnomore : ¬ e.day < daysInMonth e.year e.month := by
        rw [hlast, hback, daysInMonth_december]
        exact Nat.lt_irrefl _
      rw [if_neg hnomore, if_neg (by omega), ofParts?_eq_some]
      exact ⟨by omega, hjanuary, hfirst⟩

end Date

/-! ## Turned clocks -/

namespace TimeOfDay

variable {t : TimeOfDay} {m : Int}

theorem seconds_turned (t : TimeOfDay) (m : Int) :
    ((t.turned m).seconds : Int) = (t.seconds + m) % 86400 := by
  simp only [turned]
  omega

theorem turned_turned_neg (t : TimeOfDay) (m : Int) : (t.turned m).turned (-m) = t := by
  obtain ⟨seconds, nanos, hseconds, hnanos⟩ := t
  simp only [turned, mk.injEq, and_true]
  omega

theorem turned_eq_self_iff (hm : m.natAbs < 86400) : t.turned m = t ↔ m = 0 := by
  have hseconds := t.seconds_turned m
  have hlt := t.seconds_lt
  constructor
  · intro h
    rw [h] at hseconds
    omega
  · rintro rfl
    obtain ⟨seconds, nanos, hs, hnanos⟩ := t
    simp only [turned, mk.injEq, and_true]
    omega

end TimeOfDay

/-! ## Moved timestamps -/

namespace Timestamp

variable {t u : Timestamp} {m : Int}

theorem shift?_eq_some : t.shift? m = some u ↔ u.time = t.time.turned m ∧
    (if t.time.seconds + m < 0 then t.date.previous?
      else if t.time.seconds + m < 86400 then some t.date
      else t.date.next?) = some u.date := by
  rw [shift?, Option.map_eq_some_iff]
  constructor
  · rintro ⟨d, hd, rfl⟩
    exact ⟨rfl, hd⟩
  · rintro ⟨htime, hdate⟩
    exact ⟨u.date, hdate, by rw [← htime]⟩

/-- **A timestamp is moved back by as many seconds as it was moved.** -/
theorem shift?_neg (h : t.shift? m = some u) : u.shift? (-m) = some t := by
  have hlt := t.time.seconds_lt
  obtain ⟨htime, hdate⟩ := shift?_eq_some.1 h
  have hseconds : (u.time.seconds : Int) = (t.time.seconds + m) % 86400 := by
    rw [htime, t.time.seconds_turned]
  refine shift?_eq_some.2 ⟨by rw [htime, t.time.turned_turned_neg], ?_⟩
  -- the day is left on the side on which it was entered
  by_cases hbefore : t.time.seconds + m < 0
  · rw [if_pos hbefore] at hdate
    rw [if_neg (by omega), if_neg (by omega), Date.next?_of_previous? hdate]
  · rw [if_neg hbefore] at hdate
    by_cases hafter : t.time.seconds + m < 86400
    · rw [if_pos hafter] at hdate
      rw [if_neg (by omega), if_pos (by omega), hdate]
    · rw [if_neg hafter] at hdate
      rw [if_pos (by omega), Date.previous?_of_next? hdate]

theorem shift?_zero (t : Timestamp) : t.shift? 0 = some t := by
  have hlt := t.time.seconds_lt
  rw [shift?_eq_some, (TimeOfDay.turned_eq_self_iff (by decide)).2 rfl, if_neg (by omega),
    if_pos (by omega)]
  exact ⟨rfl, rfl⟩

/-- By less than a day a timestamp is moved to itself only if it is not moved at all. -/
theorem shift?_eq_self_iff (hm : m.natAbs < 86400) : t.shift? m = some t ↔ m = 0 := by
  constructor
  · intro h
    exact (TimeOfDay.turned_eq_self_iff hm).1 (shift?_eq_some.1 h).1.symm
  · rintro rfl
    exact t.shift?_zero

end Timestamp

namespace ZonedTimestamp

variable {z : ZonedTimestamp} {t : Timestamp}

theorem time_of_reading? (h : z.reading? = some t) : t.time = z.clock :=
  (Timestamp.shift?_eq_some.1 h).1

/-- A zoned timestamp is given by its reading and its offset. -/
theorem ofReading?_of_reading? (h : z.reading? = some t) : ofReading? t z.offset = some z := by
  rw [ofReading?, dif_pos z.offset_lt, Timestamp.shift?_neg h]
  rfl

/-- The clock shows UTC only where there is no offset. -/
theorem reading?_eq_utc_iff (z : ZonedTimestamp) : z.reading? = some z.utc ↔ z.offset = 0 :=
  Timestamp.shift?_eq_self_iff z.offset_lt

theorem reading?_ofUtc (t : Timestamp) : (ofUtc t).reading? = some t :=
  (ofUtc t).reading?_eq_utc_iff.2 rfl

theorem clock_ofUtc (t : Timestamp) : (ofUtc t).clock = t.time :=
  (time_of_reading? (reading?_ofUtc t)).symm

end ZonedTimestamp

end TableDiff.Calendar
