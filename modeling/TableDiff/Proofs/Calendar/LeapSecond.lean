import TableDiff.Proofs.Calendar.Offset

/-!
# Leap seconds in writing

A time is written with its hour, minute, second and fraction. Of a leap second that ends its minute
these are its own, as no other second is read off as 60. Any other leap second looks like the
ordinary second that follows it (`shown`, `parts_shown`). So the parts of a time make up the time
that is shown (`ofParts?_parts`), which is the time itself exactly if a leap second ends its minute
(`shown_eq_self_iff`). Where a clock is moved by whole minutes, so is what it shows
(`shift?_shown`).
-/

namespace TableDiff.Calendar

namespace TimeOfDay

variable {t : TimeOfDay} {m : Int}

/-- A leap second follows the last second of a minute. -/
def LeapEndsMinute (t : TimeOfDay) : Prop := 1000000000 ≤ t.nanos → t.seconds % 60 = 59

instance (t : TimeOfDay) : Decidable t.LeapEndsMinute := inferInstanceAs (Decidable (_ → _))

/-- The time as it is read off: a leap second inside a minute is taken for the second after it. -/
def shown (t : TimeOfDay) : TimeOfDay :=
  if h : 1000000000 ≤ t.nanos ∧ t.seconds % 60 ≠ 59 then
    ⟨t.seconds + 1, t.nanos - 1000000000, by have := t.seconds_lt; omega,
      by have := t.nanos_lt; omega⟩
  else t

theorem shown_of_leapEndsMinute (h : t.LeapEndsMinute) : t.shown = t :=
  dif_neg fun hinside => hinside.2 (h hinside.1)

theorem inside_of_not_leapEndsMinute (h : ¬ t.LeapEndsMinute) :
    1000000000 ≤ t.nanos ∧ t.seconds % 60 ≠ 59 :=
  Decidable.not_imp_iff_and_not.1 h

theorem seconds_shown (h : ¬ t.LeapEndsMinute) : t.shown.seconds = t.seconds + 1 := by
  rw [shown, dif_pos (inside_of_not_leapEndsMinute h)]

theorem nanos_shown (h : ¬ t.LeapEndsMinute) : t.shown.nanos = t.nanos - 1000000000 := by
  rw [shown, dif_pos (inside_of_not_leapEndsMinute h)]

theorem shown_eq_self_iff : t.shown = t ↔ t.LeapEndsMinute := by
  refine ⟨fun h => Decidable.byContradiction fun hinside => ?_, shown_of_leapEndsMinute⟩
  have hseconds := seconds_shown hinside
  rw [h] at hseconds
  omega

/-! ## Parts of a time -/

theorem hour_lt (t : TimeOfDay) : t.hour < 24 := by
  have := t.seconds_lt
  simp only [hour]
  omega

theorem minute_lt (t : TimeOfDay) : t.minute < 60 := by
  simp only [minute]
  omega

theorem second_le (t : TimeOfDay) : t.second ≤ 60 := by
  have := t.nanos_lt
  simp only [second]
  omega

theorem fraction_lt (t : TimeOfDay) : t.fraction < 1000000000 := by
  simp only [fraction]
  omega

theorem eq_of_parts {u : TimeOfDay} (hseconds : t.seconds = u.seconds)
    (hnanos : t.nanos = u.nanos) : t = u := by
  cases t
  cases u
  cases hseconds
  cases hnanos
  rfl

theorem leapEndsMinute_shown (t : TimeOfDay) : t.shown.LeapEndsMinute := by
  by_cases hleap : t.LeapEndsMinute
  · rwa [shown_of_leapEndsMinute hleap]
  · intro hnanos
    have := t.nanos_lt
    rw [nanos_shown hleap] at hnanos
    omega

/-- A leap second inside a minute looks like the second after it. -/
theorem parts_shown (t : TimeOfDay) : t.shown.hour = t.hour ∧ t.shown.minute = t.minute ∧
    t.shown.second = t.second ∧ t.shown.fraction = t.fraction := by
  by_cases hleap : t.LeapEndsMinute
  · rw [shown_of_leapEndsMinute hleap]
    exact ⟨rfl, rfl, rfl, rfl⟩
  · have hinside := inside_of_not_leapEndsMinute hleap
    have hnanos := t.nanos_lt
    simp only [hour, minute, second, fraction, seconds_shown hleap, nanos_shown hleap]
    omega

/-- A time is made up of its parts if a leap second ends its minute. -/
theorem ofParts?_of_leapEndsMinute (h : t.LeapEndsMinute) :
    ofParts? t.hour t.minute t.second t.fraction = some t := by
  have hparts : t.hour < 24 ∧ t.minute < 60 ∧ t.second ≤ 60 ∧ t.fraction < 1000000000 :=
    ⟨t.hour_lt, t.minute_lt, t.second_le, t.fraction_lt⟩
  have hnanos := t.nanos_lt
  rw [ofParts?, dif_pos hparts, Option.some.injEq]
  unfold LeapEndsMinute at h
  by_cases hend : t.second = 60
  · refine eq_of_parts ?_ ?_
    · simp only [hend, if_true, hour, minute]
      simp only [second] at hend
      omega
    · simp only [hend, if_true, fraction]
      simp only [second] at hend
      omega
  · refine eq_of_parts ?_ ?_
    · simp only [hend, if_false, hour, minute]
      simp only [second] at hend ⊢
      omega
    · simp only [hend, if_false, fraction]
      simp only [second] at hend
      omega

/-- The parts of a time make up the time that is shown. -/
theorem ofParts?_parts (t : TimeOfDay) :
    ofParts? t.hour t.minute t.second t.fraction = some t.shown := by
  obtain ⟨hhour, hminute, hsecond, hfraction⟩ := t.parts_shown
  rw [← hhour, ← hminute, ← hsecond, ← hfraction]
  exact ofParts?_of_leapEndsMinute t.leapEndsMinute_shown

/-! ## Moved by whole minutes -/

theorem leapEndsMinute_turned (hm : m % 60 = 0) (t : TimeOfDay) :
    (t.turned m).LeapEndsMinute ↔ t.LeapEndsMinute := by
  have hseconds := t.seconds_turned m
  have hminute : (t.turned m).seconds % 60 = t.seconds % 60 := by omega
  unfold LeapEndsMinute
  rw [hminute]
  rfl

/-- A clock that is moved by whole minutes shows what it showed, moved by as many. -/
theorem turned_shown (hm : m % 60 = 0) (t : TimeOfDay) :
    t.shown.turned m = (t.turned m).shown := by
  by_cases hleap : t.LeapEndsMinute
  · rw [shown_of_leapEndsMinute hleap,
      shown_of_leapEndsMinute ((leapEndsMinute_turned hm t).2 hleap)]
  · have hturned : ¬ (t.turned m).LeapEndsMinute := fun h =>
      hleap ((leapEndsMinute_turned hm t).1 h)
    have hinside := inside_of_not_leapEndsMinute hleap
    have hshown := t.shown.seconds_turned m
    have hseconds := t.seconds_turned m
    rw [seconds_shown hleap] at hshown
    refine eq_of_parts ?_ ?_
    · rw [seconds_shown hturned]
      omega
    · rw [nanos_shown hturned]
      exact nanos_shown hleap

end TimeOfDay

namespace Timestamp

variable {t u : Timestamp} {m : Int}

/-- The timestamp as it is read off. -/
def shown (t : Timestamp) : Timestamp := ⟨t.date, t.time.shown⟩

theorem shown_eq_self_iff : t.shown = t ↔ t.time.LeapEndsMinute := by
  rw [← TimeOfDay.shown_eq_self_iff]
  constructor
  · intro h
    exact congrArg time h
  · intro h
    rw [shown, h]

/-- A timestamp that is moved by whole minutes is moved as it is read off. -/
theorem shift?_shown (hm : m % 60 = 0) (h : t.shift? m = some u) :
    t.shown.shift? m = some u.shown := by
  obtain ⟨htime, hdate⟩ := shift?_eq_some.1 h
  have hshown : u.shown.time = t.shown.time.turned m := by
    show u.time.shown = t.time.shown.turned m
    rw [htime, TimeOfDay.turned_shown hm]
  refine shift?_eq_some.2 ⟨hshown, ?_⟩
  by_cases hleap : t.time.LeapEndsMinute
  · rw [shown_eq_self_iff.2 hleap]
    exact hdate
  · -- the second after it lies in the same minute, hence on the same side of midnight
    have hinside := TimeOfDay.inside_of_not_leapEndsMinute hleap
    have hseconds : t.shown.time.seconds = t.time.seconds + 1 := TimeOfDay.seconds_shown hleap
    have hbefore : (t.shown.time.seconds + m < 0) ↔ ((t.time.seconds : Int) + m < 0) := by omega
    have hafter : (t.shown.time.seconds + m < 86400) ↔ ((t.time.seconds : Int) + m < 86400) := by
      omega
    simp only [hbefore, hafter]
    exact hdate

end Timestamp

namespace ZonedTimestamp

/-- The offset is a whole number of minutes. -/
def HasWholeMinutes (z : ZonedTimestamp) : Prop := z.offset % 60 = 0

instance (z : ZonedTimestamp) : Decidable z.HasWholeMinutes := inferInstanceAs (Decidable (_ = _))

/-- The zoned timestamp as it is read off. -/
def shown (z : ZonedTimestamp) : ZonedTimestamp := { z with utc := z.utc.shown }

theorem same_shown_iff {z : ZonedTimestamp} :
    z.shown.same z = true ↔ z.utc.time.LeapEndsMinute := by
  rw [same, beq_iff_eq]
  exact Timestamp.shown_eq_self_iff

/-- What a clock shows that goes ahead or back by whole minutes is read off with its offset. -/
theorem ofReading?_shown {z : ZonedTimestamp} {t : Timestamp} (hz : z.HasWholeMinutes)
    (h : z.reading? = some t) : ofReading? t.shown z.offset = some z.shown :=
  ofReading?_of_reading? (z := z.shown) (Timestamp.shift?_shown hz h)

end ZonedTimestamp

end TableDiff.Calendar
