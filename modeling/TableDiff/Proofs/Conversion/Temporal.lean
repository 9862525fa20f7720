import TableDiff.Proofs.Calendar.Offset
import TableDiff.Proofs.Calendar.OneForm
import TableDiff.Proofs.Conversion.Verdict

/-!
# The timestamp, the date and the time of a value

What is converted to a timestamp is also converted to a date and to a zoned timestamp. The
conversions are those of one zoned timestamp (`exists_zoned_of_toTimestamp`): its timestamp is read
in UTC, its date and its time of day on its own clock, which shows a date unless that is beyond all
dates. So they fit together exactly if the value has no offset from UTC
(`timestamp_conversions_consistent_iff`).
-/

namespace TableDiff

open TableDiff.Calendar

namespace Value

variable {v : Value} {t : Timestamp}

/-- The offset from UTC of the clock of a value, in seconds to the east. -/
def offset : Value → Int
  | zoned z => z.offset
  | _ => 0

/-- The value is converted to the date that the clock shows, to its time of day if it is converted
to one at all, and to an instant with the given reading in UTC. -/
structure ConvertsTo (v : Value) (utc clock : Timestamp) : Prop where
  date : DataType.date.convert v = .ok (date clock.date)
  time : ∀ w, DataType.time.convert v = .ok w → w = time clock.time
  zoned : ∃ z, DataType.timestampWithTimeZone.convert v = .ok (zoned z) ∧ z.utc = utc

/-! ## The zoned timestamp of a value -/

theorem ofText?_of_toTimestamp {s : String} (h : (text s).toTimestamp = .ok t) :
    Timestamp.ofText? (Text.trim s.toList) = some t := by
  rw [toTimestamp] at h
  cases hread : Timestamp.ofText? (Text.trim s.toList) with
  | none =>
    rw [hread] at h
    cases h
  | some t' =>
    rw [hread] at h
    cases h
    rfl

theorem toDate_text {s : String} (h : Timestamp.ofText? (Text.trim s.toList) = some t) :
    (text s).toDate = .ok t.date := by
  simp only [toDate, Date.ofText?_or_timestamp h]

theorem toTime_text {s : String} (h : Timestamp.ofText? (Text.trim s.toList) = some t) :
    (text s).toTime = .error .timeText := by
  simp only [toTime, TimeOfDay.ofText?_eq_none_of_timestamp h]

theorem toZoned_text {s : String} (h : Timestamp.ofText? (Text.trim s.toList) = some t) :
    (text s).toZoned = .ok (.ofUtc t) := by
  simp only [toZoned, ZonedTimestamp.ofText?_of_timestamp h]

theorem toDate_zoned_ofUtc (t : Timestamp) : (zoned (.ofUtc t)).toDate = .ok t.date := by
  rw [toDate, ZonedTimestamp.reading?_ofUtc]

/-- **All temporal conversions of a value are those of one zoned timestamp**, which is the value
itself or has no offset. -/
theorem exists_zoned_of_toTimestamp (h : v.toTimestamp = .ok t) : ∃ z : ZonedTimestamp,
    z.utc = t ∧ z.offset = v.offset ∧ v.toZoned = .ok z ∧ v.toDate = (zoned z).toDate ∧
      ∀ time, v.toTime = .ok time → time = z.clock := by
  cases v with
  | timestamp _ =>
    cases h
    refine ⟨.ofUtc t, rfl, rfl, rfl, (toDate_zoned_ofUtc t).symm, ?_⟩
    rintro _ ⟨⟩
    rw [ZonedTimestamp.clock_ofUtc]
  | date d =>
    cases h
    refine ⟨.ofUtc (.ofDate d), rfl, rfl, rfl, (toDate_zoned_ofUtc (.ofDate d)).symm, ?_⟩
    rintro _ ⟨⟩
  | zoned z =>
    cases h
    refine ⟨z, rfl, rfl, rfl, rfl, ?_⟩
    rintro _ ⟨⟩
    rfl
  | int i =>
    have hepoch : ofEpoch i = .ok t := h
    refine ⟨.ofUtc t, rfl, rfl, ?_, ?_, ?_⟩
    · rw [toZoned, hepoch]
      rfl
    · rw [toDate_zoned_ofUtc, toDate, hepoch]
      rfl
    · rintro _ ⟨⟩
  | text s =>
    have htext := ofText?_of_toTimestamp h
    refine ⟨.ofUtc t, rfl, rfl, toZoned_text htext, ?_, ?_⟩
    · rw [toDate_zoned_ofUtc, toDate_text htext]
    · intro time htime
      rw [toTime_text htext] at htime
      cases htime
  | _ => cases h

/-! ## Consistent conversions -/

theorem toTimestamp_of_convert (h : DataType.timestamp.convert v = .ok (timestamp t)) :
    v.isNull = false ∧ v.toTimestamp = .ok t := by
  have hv : v.isNull = false := by
    cases v <;> first | rfl | cases h
  obtain ⟨s, hs, heq⟩ := map_eq_ok.1 ((DataType.convert_eq_ok hv).1 h)
  cases heq
  exact ⟨hv, hs⟩

theorem convertsTo_clock {clock : Timestamp} (h : DataType.timestamp.convert v = .ok (timestamp t))
    (hclock : t.shift? v.offset = some clock) : v.ConvertsTo t clock := by
  obtain ⟨hv, ht⟩ := toTimestamp_of_convert h
  obtain ⟨z, rfl, hoffset, hzoned, hdate, htime⟩ := exists_zoned_of_toTimestamp ht
  rw [← hoffset] at hclock
  refine ⟨?_, ?_, z, ?_, rfl⟩
  · have hshown : v.toDate = .ok clock.date := by
      rw [hdate, toDate, ZonedTimestamp.reading?, hclock]
    exact (DataType.convert_eq_ok hv).2 (map_eq_ok.2 ⟨_, hshown, rfl⟩)
  · intro w hw
    obtain ⟨time, htime', rfl⟩ := map_eq_ok.1 ((DataType.convert_eq_ok hv).1 hw)
    rw [htime time htime', ZonedTimestamp.time_of_reading? hclock]
  · exact (DataType.convert_eq_ok hv).2 (map_eq_ok.2 ⟨_, hzoned, rfl⟩)

/-- A clock that is beyond all dates shows no date. -/
theorem convert_date_of_no_clock (h : DataType.timestamp.convert v = .ok (timestamp t))
    (hclock : t.shift? v.offset = none) :
    DataType.date.convert v = .error ⟨v, "DATE", .clockOutOfRange⟩ := by
  obtain ⟨hv, ht⟩ := toTimestamp_of_convert h
  obtain ⟨z, rfl, hoffset, -, hdate, -⟩ := exists_zoned_of_toTimestamp ht
  rw [← hoffset] at hclock
  have hfault : v.toDate = .error .clockOutOfRange := by
    rw [hdate, toDate, ZonedTimestamp.reading?, hclock]
  rw [DataType.convert, hv]
  show v.orError "DATE" (v.toDate.map date) = _
  rw [hfault]
  rfl

/-- On a clock that shows something else than UTC the date or the time of day is different. -/
theorem offset_eq_zero_of_convertsTo (h : DataType.timestamp.convert v = .ok (timestamp t))
    (hv : v.ConvertsTo t t) : v.offset = 0 := by
  cases v with
  | zoned z =>
    cases h
    obtain ⟨_, hdate, hshown⟩ := map_eq_ok.1 ((DataType.convert_eq_ok rfl).1 hv.date)
    have htime : z.clock = z.utc.time := time.inj (hv.time (time z.clock) rfl)
    cases hr : z.reading? with
    | none =>
      rw [toDate, hr] at hdate
      cases hdate
    | some clock =>
      rw [toDate, hr] at hdate
      cases hdate
      have hclock : clock = z.utc := by
        calc
          clock = ⟨clock.date, clock.time⟩ := rfl
          _ = ⟨z.utc.date, z.utc.time⟩ := by
            rw [date.inj hshown, ZonedTimestamp.time_of_reading? hr, htime]
      rw [hclock] at hr
      exact z.reading?_eq_utc_iff.1 hr
  | _ => rfl

/-- **The temporal conversions of a value show one instant**: the timestamp is its reading in UTC,
the date and the time of day are those of the value's own clock. There is no date exactly if this
clock is beyond all dates. So date and time are the parts of the timestamp exactly if the value has
no offset. -/
theorem timestamp_conversions_consistent_iff
    (h : DataType.timestamp.convert v = .ok (timestamp t)) :
    (∀ clock, t.shift? v.offset = some clock → v.ConvertsTo t clock) ∧
      (t.shift? v.offset = none →
        DataType.date.convert v = .error ⟨v, "DATE", .clockOutOfRange⟩) ∧
      (v.ConvertsTo t t ↔ v.offset = 0) := by
  refine ⟨fun clock => convertsTo_clock h, convert_date_of_no_clock h,
    offset_eq_zero_of_convertsTo h, fun hoffset => ?_⟩
  refine convertsTo_clock h ?_
  rw [hoffset, t.shift?_zero]

/-- The last millisecond before 1970. -/
def beforeEpoch : Timestamp :=
  ⟨⟨1969, 12, 31, by decide⟩, ⟨86399, 999000000, by decide, by decide⟩⟩

theorem millisecond_before_epoch_consistent :
    DataType.timestamp.convert (int (-1)) = .ok (timestamp beforeEpoch) ∧
      (int (-1)).ConvertsTo beforeEpoch beforeEpoch := by
  have hconvert : DataType.timestamp.convert (int (-1)) = .ok (timestamp beforeEpoch) := by
    decide +kernel
  exact ⟨hconvert, (timestamp_conversions_consistent_iff hconvert).2.2.2 rfl⟩

/-- Half past eleven in the evening of `2024-01-01`, two hours to the west. -/
def eveningInWest : ZonedTimestamp :=
  ⟨⟨⟨2024, 1, 2, by decide⟩, ⟨5400, 0, by decide, TimeOfDay.midnight.nanos_lt⟩⟩, -7200,
    by decide⟩

/-- Its date is the one before the date of its timestamp. -/
theorem evening_in_west_on_day_before :
    DataType.timestamp.convert (zoned eveningInWest) = .ok (timestamp eveningInWest.utc) ∧
      DataType.date.convert (zoned eveningInWest) = .ok (date ⟨2024, 1, 1, by decide⟩) ∧
      ¬ (zoned eveningInWest).ConvertsTo eveningInWest.utc eveningInWest.utc := by
  have hdate : DataType.date.convert (zoned eveningInWest) =
      .ok (date ⟨2024, 1, 1, by decide⟩) := by
    decide
  refine ⟨rfl, hdate, ?_⟩
  intro hconsistent
  have hday := hconsistent.date
  rw [hdate] at hday
  exact absurd hday (by decide)

end Value

end TableDiff
