import TableDiff.Proofs.Calendar.WrittenForms
import TableDiff.Proofs.Conversion.Verdict
import TableDiff.Proofs.Numeric.WrittenDecimal
import TableDiff.Proofs.Text.Base64
import TableDiff.Proofs.Text.WrittenUuid
import TableDiff.Proofs.Value.Equality

/-!
# Written values are read back

The text of a value, converted to the type that values of its kind have by nature, gives the value
as the text shows it (`convert_render`). A decimal zero loses its sign there, which makes no
difference, and a leap second inside a minute is taken for the ordinary second after it, which does
(`same_plain_iff`). Floating point numbers are left out. The text of a zoned timestamp with an offset
of whole minutes is read at all just if its year is written with four digits and no sign
(`convert_zoned_render`).
-/

namespace TableDiff

open TableDiff.Calendar TableDiff.Numeric

/-- The type that values of a kind have by nature. -/
def Kind.naturalType : Kind → DataType
  | null => .unknown
  | bool => .boolean
  | int => .bigInt
  | float => .double
  | decimal => .numeric
  | text => .varchar
  | bytes => .varBinary
  | date => .date
  | time => .time
  | timestamp => .timestamp
  | zoned => .timestampWithTimeZone
  | uuid => .uuid

namespace Value

variable {v w : Value} {s : String}

/-! ## Values as their text shows them -/

/-- The value as its text shows it: a decimal zero without its sign, and a leap second inside a
minute as the second after it. -/
def plain : Value → Value
  | decimal d => decimal d.plainZero
  | time t => time t.shown
  | timestamp t => timestamp t.shown
  | zoned z => zoned z.shown
  | v => v

/-- The time of day in a value, the one in UTC of a zoned timestamp. -/
def timeOfDay? : Value → Option TimeOfDay
  | time t => some t
  | timestamp t => some t.time
  | zoned z => some z.utc.time
  | _ => none

/-- A leap second in the value follows the last second of a minute. -/
def LeapEndsMinute (v : Value) : Prop := ∀ t ∈ v.timeOfDay?, t.LeapEndsMinute

instance (v : Value) : Decidable v.LeapEndsMinute :=
  inferInstanceAs (Decidable (∀ t ∈ v.timeOfDay?, t.LeapEndsMinute))

/-- A value is the same as its text shows exactly if no leap second is taken for another second. -/
theorem same_plain_iff (h : v.kind ≠ .float) : v.plain.same v = true ↔ v.LeapEndsMinute := by
  cases v with
  | float x => exact absurd rfl h
  | decimal d => simp [LeapEndsMinute, timeOfDay?, plain, same, Decimal.same_plainZero]
  | time t => simp [LeapEndsMinute, timeOfDay?, plain, same, TimeOfDay.shown_eq_self_iff]
  | timestamp t => simp [LeapEndsMinute, timeOfDay?, plain, same, Timestamp.shown_eq_self_iff]
  | zoned z => simp [LeapEndsMinute, timeOfDay?, plain, same, ZonedTimestamp.same_shown_iff]
  | _ => simp [LeapEndsMinute, timeOfDay?, plain, same]

/-! ## Numbers and truth values -/

theorem toBoolean_render (b : Bool) : (text (bool b).render).toBoolean = .ok b := by
  cases b
  · decide +kernel
  · decide +kernel

theorem toDecimal_text_of_trim (h : Text.trim s.toList = s.toList) {d : Decimal}
    (hd : Decimal.ofTextExact? s.toList = some d) : (text s).toDecimal = .ok d := by
  simp [toDecimal, h, hd]

theorem toDecimal_render (d : Decimal) :
    (text (decimal d).render).toDecimal = .ok d.plainZero := by
  have htext : (decimal d).render.toList = d.text := String.toList_ofList
  refine toDecimal_text_of_trim ?_ ?_
  · rw [htext]
    exact Text.trim_eq_self fun _ => Decimal.not_isBlank_of_mem_text
  · rw [htext]
    exact Decimal.ofTextExact?_text d

/-- The text of an integer is the text of its decimal. -/
theorem render_int (i : Int64) : (int i).render = (decimal (.ofInt64 i)).render :=
  congrArg String.ofList (Decimal.text_ofInt64 i).symm

theorem toInteger_render (i : Int64) : (text (int i).render).toInteger = .ok i := by
  have hdecimal : (text (int i).render).toDecimal = .ok (.ofInt64 i) := by
    rw [render_int, toDecimal_render, Decimal.plainZero_ofInt64]
  rw [toInteger, bind_eq_ok]
  · refine ⟨_, hdecimal, ?_⟩
    rw [Decimal.truncate_ofInt64, if_pos (fitsInt64_toInt i), Int64.ofInt_toInt]
  · intro i h
    cases h
  · intro b h
    cases h

theorem comparableNumber_render (d : Decimal) :
    (text (decimal d).render).comparableNumber = .ok (decimal d.plainZero) := by
  rw [comparableNumber, toDecimal_render]

/-! ## Dates and times -/

theorem toDate_render (d : Date) : (text (date d).render).toDate = .ok d := by
  have htext : (date d).render.toList = d.text := String.toList_ofList
  simp only [toDate, htext, d.trim_text, Date.ofText?_text, Option.some_or]

theorem toTime_render (t : TimeOfDay) : (text (time t).render).toTime = .ok t.shown := by
  have htext : (time t).render.toList = t.text := String.toList_ofList
  simp only [toTime, htext, t.trim_text, TimeOfDay.ofText?_text]

theorem toTimestamp_render (t : Timestamp) :
    (text (timestamp t).render).toTimestamp = .ok t.shown := by
  have htext : (timestamp t).render.toList = t.text := String.toList_ofList
  simp only [toTimestamp, htext, t.trim_text, Timestamp.ofText?_text]

theorem toZoned_render {z : ZonedTimestamp} (hz : z.HasWholeMinutes) :
    (text (zoned z).render).toZoned =
      if z.HasPlainYear then .ok z.shown else .error .zonedText := by
  have htext : (zoned z).render.toList = z.text := String.toList_ofList
  simp only [toZoned, htext, z.trim_text, ZonedTimestamp.ofText?_text hz]
  by_cases h : z.HasPlainYear
  · simp only [if_pos h]
  · simp only [if_neg h]

/-! ## Bytes and UUIDs -/

theorem toBytes_render (bs : List UInt8) : (text (bytes bs).render).toBytes = .ok bs := by
  have htext : (bytes bs).render.toList = Text.Base64.encode bs := String.toList_ofList
  have htrim : Text.trim (Text.Base64.encode bs) = Text.Base64.encode bs :=
    Text.trim_eq_self fun _ => Text.Base64.not_isBlank_of_mem_encode
  simp only [toBytes, htext, htrim, Text.Base64.decode_encode]

theorem toUuid_render (u : Uuid) : (text (uuid u).render).toUuid = .ok u := by
  have htext : (uuid u).render.toList = u.text := String.toList_ofList
  have htrim : Text.trim u.text = u.text :=
    Text.trim_eq_self fun _ => Uuid.not_isBlank_of_mem_text
  simp only [toUuid, htext, htrim, Uuid.ofText_text]

/-! ## All kinds -/

theorem convertTo_render (hnull : v.kind ≠ .null) (hfloat : v.kind ≠ .float)
    (hzoned : v.kind ≠ .zoned) :
    (text v.render).convertTo v.kind.naturalType.family = .ok v.plain := by
  cases v with
  | null => exact absurd rfl hnull
  | float x => exact absurd rfl hfloat
  | zoned z => exact absurd rfl hzoned
  | text s =>
    have htext : (text s).render = s := String.ofList_toList
    simp only [kind, Kind.naturalType, DataType.family, convertTo, plain, htext]
  | _ =>
    simp only [kind, Kind.naturalType, DataType.family, convertTo, plain, Except.map,
      toBoolean_render, toInteger_render, comparableNumber_render, toBytes_render, toDate_render,
      toTime_render, toTimestamp_render, toUuid_render]

/-- A value comes back from its text as it is shown there. -/
theorem convert_render (hnull : v.kind ≠ .null) (hfloat : v.kind ≠ .float)
    (hzoned : v.kind ≠ .zoned) : v.kind.naturalType.convert (text v.render) = .ok v.plain := by
  rw [DataType.convert, convertTo_render hnull hfloat hzoned]
  rfl

/-- **The text of a value reads back as it is shown there**, for all kinds but null, floating point
numbers and zoned timestamps, and as an equal value exactly if a leap second in it ends a minute. -/
theorem reads_back_iff (v : Value) (hnull : v.kind ≠ .null) (hfloat : v.kind ≠ .float)
    (hzoned : v.kind ≠ .zoned) :
    v.kind.naturalType.convert (text v.render) = .ok v.plain ∧
      (v.plain.same v = true ↔ v.LeapEndsMinute) :=
  ⟨convert_render hnull hfloat hzoned, same_plain_iff hfloat⟩

theorem lastSecond_lt : 86399 < 86400 := by decide

/-- The leap second `-0044-03-15 23:59:60.500`, in a year with a sign. -/
def leapSecond : Timestamp :=
  ⟨⟨-44, 3, 15, by decide⟩, ⟨86399, 1500000000, lastSecond_lt, by decide⟩⟩

theorem leapSecond_reads_back :
    (timestamp leapSecond).kind ≠ .null ∧ (timestamp leapSecond).kind ≠ .float ∧
      (timestamp leapSecond).kind ≠ .zoned ∧
      DataType.timestamp.convert (text (timestamp leapSecond).render) =
        .ok (timestamp leapSecond).plain ∧
      ((timestamp leapSecond).plain.same (timestamp leapSecond) = true ↔
        (timestamp leapSecond).LeapEndsMinute) :=
  ⟨by decide, by decide, by decide,
    reads_back_iff (timestamp leapSecond) (by decide) (by decide) (by decide)⟩

/-- A third of a second into the leap second after `23:56:04`. -/
def leapAfterFour : TimeOfDay := ⟨86164, 1333333333, by decide, by decide⟩

/-- It is written and read as a third of a second after `23:56:05`. -/
theorem leapAfterFour_not_read_back :
    (time leapAfterFour).display = "23:56:05.333333333".toList ∧
      ¬ ∃ w, DataType.time.convert (text (time leapAfterFour).render) = .ok w ∧
        w.same (time leapAfterFour) = true := by
  refine ⟨by decide +kernel, ?_⟩
  rintro ⟨w, hw, hsame⟩
  rw [show DataType.time.convert (text (time leapAfterFour).render) = _ from
    convert_render (v := time leapAfterFour) (by decide) (by decide) (by decide)] at hw
  cases hw
  exact absurd hsame (by decide)

/-! ## Zoned timestamps -/

theorem convert_zoned_render {z : ZonedTimestamp} (hz : z.HasWholeMinutes) :
    DataType.timestampWithTimeZone.convert (text (zoned z).render) =
      if z.HasPlainYear then .ok (zoned z.shown)
      else .error ⟨text (zoned z).render, "TIMESTAMP_WITH_TIMEZONE", .zonedText⟩ := by
  have hconvert : DataType.timestampWithTimeZone.convert (text (zoned z).render) =
      (text (zoned z).render).orError "TIMESTAMP_WITH_TIMEZONE"
        ((text (zoned z).render).toZoned.map zoned) := rfl
  rw [hconvert, toZoned_render hz]
  by_cases h : z.HasPlainYear
  · rw [if_pos h, if_pos h]
    rfl
  · rw [if_neg h, if_neg h]
    rfl

/-- The first instant whose year has five digits is not read from its text. -/
example : DataType.timestampWithTimeZone.convert (text
    (zoned (.ofUtc ⟨⟨10000, 1, 1, by decide⟩, .midnight⟩)).render) =
      .error ⟨text "+10000-01-01T00:00:00+00:00", "TIMESTAMP_WITH_TIMEZONE", .zonedText⟩ := by
  decide +kernel

theorem agree_zoned (s : String) (z : ZonedTimestamp) :
    (LogicalType.plain .timestampWithTimeZone).agree (text s) (zoned z) = .ok true ↔
      ∃ w, DataType.timestampWithTimeZone.convert (text s) = .ok w ∧ w.same (zoned z) = true := by
  have hzoned : DataType.timestampWithTimeZone.normalize (zoned z) = .ok (zoned z) := rfl
  have hnormalize : ∀ v w, DataType.timestampWithTimeZone.normalize v = .ok w ↔
      DataType.timestampWithTimeZone.convert v = .ok w := by
    intro v w
    simp only [DataType.normalize, bind_eq_ok, pure_eq_ok]
    exact ⟨fun ⟨x, hx, hw⟩ => hw ▸ hx, fun h => ⟨w, h, rfl⟩⟩
  rw [LogicalType.agree_plain (by decide) rfl rfl, map_eq_ok,
    DataType.compare_of_not_exactNumeric (by decide) (by decide)]
  simp only [bind_eq_ok, pure_eq_ok, hzoned, hnormalize]
  constructor
  · rintro ⟨o, ⟨w, hw, x, hx, rfl⟩, ho⟩
    cases hx
    refine ⟨w, hw, same_of_compare_eq (eq_of_beq ho) (isNaN_eq_false_of_kind fun hfloat => ?_)⟩
    rw [kind_eq_of_compare (eq_of_beq ho)] at hfloat
    cases hfloat
  · rintro ⟨w, hw, hsame⟩
    have hkind : w.kind ≠ .float := by
      intro hfloat
      obtain ⟨x, rfl⟩ := eq_float_of_kind hfloat
      cases hsame
    have ho := (same_iff_compare_eq hkind).1 hsame
    exact ⟨.eq, ⟨w, hw, zoned z, rfl, ho⟩, rfl⟩

/-- **The text of a zoned timestamp reads back as it is shown there**, if the offset is a whole number
of minutes and the year is written with four digits and no sign. It is then read as the same instant,
and agrees with it, exactly if a leap second ends a minute. -/
theorem zoned_reads_back_iff {z : ZonedTimestamp} (hz : z.HasWholeMinutes) (hyear : z.HasPlainYear) :
    DataType.timestampWithTimeZone.convert (text (zoned z).render) = .ok (zoned z).plain ∧
      ((zoned z).plain.same (zoned z) = true ↔ (zoned z).LeapEndsMinute) ∧
      ((LogicalType.plain .timestampWithTimeZone).agree (text (zoned z).render) (zoned z) =
        .ok true ↔ (zoned z).LeapEndsMinute) := by
  have hconvert : DataType.timestampWithTimeZone.convert (text (zoned z).render) =
      .ok (zoned z).plain := by
    rw [convert_zoned_render hz, if_pos hyear]
    rfl
  have hsame := same_plain_iff (v := zoned z) (by exact nofun)
  refine ⟨hconvert, hsame, (agree_zoned _ z).trans ?_⟩
  rw [hconvert, ← hsame]
  constructor
  · rintro ⟨w, hw, h⟩
    cases hw
    exact h
  · intro h
    exact ⟨_, rfl, h⟩

/-- The leap second before 2017, on a clock five and a half hours ahead. -/
def leapSecondInEast : ZonedTimestamp :=
  ⟨⟨⟨2016, 12, 31, by decide⟩, ⟨86399, 1500000000, lastSecond_lt, by decide⟩⟩, 19800, by decide⟩

theorem leapSecondInEast_reads_back :
    leapSecondInEast.HasWholeMinutes ∧ leapSecondInEast.HasPlainYear ∧
      (LogicalType.plain .timestampWithTimeZone).agree (text (zoned leapSecondInEast).render)
        (zoned leapSecondInEast) = .ok true := by
  have hminutes : leapSecondInEast.HasWholeMinutes := by decide
  have hyear : leapSecondInEast.HasPlainYear := by decide +kernel
  exact ⟨hminutes, hyear, (zoned_reads_back_iff hminutes hyear).2.2.2 (by decide)⟩

/-- A third of a second into the leap second after `23:56:04` on the first day of 2024. -/
def zonedLeapAfterFour : ZonedTimestamp := .ofUtc ⟨⟨2024, 1, 1, by decide⟩, leapAfterFour⟩

/-- It is written and read as a third of a second after `23:56:05`, which is another instant. -/
theorem zonedLeapAfterFour_not_read_back :
    (zoned zonedLeapAfterFour).display = "2024-01-01T23:56:05.333333333+00:00".toList ∧
      ¬ ∃ w, DataType.timestampWithTimeZone.convert (text (zoned zonedLeapAfterFour).render) =
        .ok w ∧ w.same (zoned zonedLeapAfterFour) = true := by
  have hminutes : zonedLeapAfterFour.HasWholeMinutes := by decide
  have hyear : zonedLeapAfterFour.HasPlainYear := by decide +kernel
  refine ⟨by decide +kernel, ?_⟩
  rintro ⟨w, hw, hsame⟩
  rw [convert_zoned_render hminutes, if_pos hyear] at hw
  cases hw
  exact absurd hsame (by decide)

end Value

end TableDiff
