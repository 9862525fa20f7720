import TableDiff.Proofs.Calendar.LeapSecond
import TableDiff.Proofs.Calendar.Pieces

/-!
# Written dates and times are read back

A date is read back from the text of a cell (`Date.ofText?_text`), and a time of day and a timestamp
as they are shown there (`TimeOfDay.ofText?_text`, `Timestamp.ofText?_text`), whatever the year and
the fraction. A zoned timestamp with an offset of whole minutes is read back as it is shown if its
year has four digits and no sign, and otherwise it is not read at all (`ZonedTimestamp.ofText?_text`).
The interchange forms are read back in the same way, those of zoned timestamps whatever the year, if
only it is that of a date (`ZonedTimestamp.ofInterchange?_interchange` and the lemmas before it).
-/

namespace TableDiff.Calendar

open TableDiff.Text

variable {f : Fields} {rest : List Char}

/-! ## Parts of a date and a time -/

namespace Fields

/-- The fields with the parts of a day filled in. -/
def withDay (f : Fields) (d : Day) : Fields :=
  { f with year := some d.year, month := some d.month, day := some d.day }

/-- The fields with the parts of a time filled in; the fraction zero is not written. -/
def withTime (f : Fields) (t : TimeOfDay) : Fields :=
  { f with
    hour := some t.hour
    minute := some t.minute
    second := some t.second
    fraction := if t.fraction = 0 then none else some t.fraction }

variable {d : Day} {t : TimeOfDay} {o : Int}

theorem date?_withDay : (f.withDay d).date? = Date.ofParts? d.year d.month d.day := rfl

@[simp] theorem date?_withDay_toDay (d : Date) : (f.withDay d.toDay).date? = some d :=
  d.ofParts?_self

@[simp] theorem date?_withTime : (f.withTime t).date? = f.date? := rfl

@[simp] theorem time?_withTime : (f.withTime t).time? = some t.shown := by
  have hfraction : (if t.fraction = 0 then none else some t.fraction).getD 0 = t.fraction := by
    split
    next h => exact h.symm
    next => rfl
  have hparts := t.ofParts?_parts
  simp only [time?, withTime, Option.getD_some, hfraction]
  exact hparts

theorem timestamp?_withTime :
    (f.withTime t).timestamp? = f.date?.map fun d => ⟨d, t.shown⟩ := by
  rw [timestamp?, time?_withTime, date?_withTime]
  cases f.date? <;> rfl

@[simp] theorem timestamp?_offset : { f with offset := some o }.timestamp? = f.timestamp? := rfl

end Fields

/-! ## Days in two digits -/

/-- The month and the day of the month have at most two digits. -/
structure Day.IsShort (d : Day) : Prop where
  month_lt : d.month < 10 ^ 2
  day_lt : d.day < 10 ^ 2

theorem Date.isShort_toDay (d : Date) : d.toDay.IsShort where
  month_lt := by
    have := d.isDate.month_le
    simp only [toDay]
    omega
  day_lt := by
    have hday := d.isDate.day_le
    have hmost : daysInMonth d.year d.month ≤ 31 := by
      unfold daysInMonth
      repeat' split
      all_goals omega
    simp only [toDay]
    omega

theorem ZonedTimestamp.isShort_day (z : ZonedTimestamp) : z.day.IsShort := by
  unfold ZonedTimestamp.day
  split
  · exact Date.isShort_toDay _
  · split
    · exact ⟨by decide, by decide⟩
    · exact ⟨by decide, by decide⟩

/-! ## Dates and times inside a text -/

theorem day_text_append (d : Day) (rest : List Char) : d.text ++ rest =
    yearText d.year ++ ('-' :: (paddedDigits 2 d.month ++
      ('-' :: (paddedDigits 2 d.day ++ rest)))) := by
  simp [Day.text]

theorem time_text_append (t : TimeOfDay) (rest : List Char) : t.text ++ rest =
    paddedDigits 2 t.hour ++ (':' :: (paddedDigits 2 t.minute ++
      (':' :: (paddedDigits 2 t.second ++ (fractionText t.fraction ++ rest))))) := by
  simp [TimeOfDay.text]

theorem numberEnds_hyphen : NumberEnds ('-' :: rest) := stops_cons rfl

theorem take?_day {d : Day} (hd : d.IsShort) (rest : List Char) :
    Pattern.take? f (d.text ++ rest) Pattern.date = some (f.withDay d, rest) := by
  simp only [day_text_append, Pattern.date, Piece.year, Piece.month, Piece.day]
  rw [take?_cons (take?_year d.year numberEnds_hyphen), take?_cons (take?_only '-'),
    take?_cons (take?_lenient (w := 2) .month rfl hd.month_lt), take?_cons (take?_only '-'),
    take?_cons (take?_lenient (w := 2) .day rfl hd.day_lt)]
  rfl

theorem take?_spacedDay {d : Day} (hd : d.IsShort) (rest : List Char) :
    Pattern.take? f (d.text ++ rest) Pattern.spacedDate = some (f.withDay d, rest) := by
  have hhyphen : ∀ {f : Fields} {cs : List Char},
      Piece.take? f ('-' :: cs) .blanks = some (f, '-' :: cs) := rfl
  simp only [day_text_append, Pattern.spacedDate, Piece.year, Piece.month, Piece.day]
  rw [take?_cons (take?_year d.year numberEnds_hyphen), take?_cons hhyphen,
    take?_cons (take?_only '-'), take?_cons (take?_lenient (w := 2) .month rfl hd.month_lt),
    take?_cons hhyphen, take?_cons (take?_only '-'),
    take?_cons (take?_lenient (w := 2) .day rfl hd.day_lt)]
  rfl

section

variable (t : TimeOfDay)

theorem hour_lt_pow : t.hour < 10 ^ 2 := by
  have := t.hour_lt
  omega

theorem minute_lt_pow : t.minute < 10 ^ 2 := by
  have := t.minute_lt
  omega

theorem second_lt_pow : t.second < 10 ^ 2 := by
  have := t.second_le
  omega

theorem take?_time (hends : NumberEnds rest) :
    Pattern.take? f (t.text ++ rest) Pattern.time = some (f.withTime t, rest) := by
  simp only [time_text_append, Pattern.time, Piece.hour, Piece.minute, Piece.second]
  rw [take?_cons (take?_lenient (w := 2) .hour rfl (hour_lt_pow t)), take?_cons (take?_only ':'),
    take?_cons (take?_lenient (w := 2) .minute rfl (minute_lt_pow t)), take?_cons (take?_only ':'),
    take?_cons (take?_lenient (w := 2) .second rfl (second_lt_pow t)),
    take?_cons (take?_fraction t.fraction_lt hends)]
  rfl

theorem take?_spacedTime (hends : NumberEnds rest) (hblank : Stops isBlank rest) :
    Pattern.take? f (t.text ++ rest) (Pattern.spacedShortTime ++ Pattern.spacedSeconds) =
      some (f.withTime t, rest) := by
  have hcolon : ∀ {f : Fields} {cs : List Char},
      Piece.take? f (':' :: cs) .blanks = some (f, ':' :: cs) := rfl
  simp only [time_text_append, Pattern.spacedShortTime, Pattern.spacedSeconds, Piece.hour,
    Piece.minute, Piece.second, List.cons_append, List.nil_append]
  rw [take?_cons (take?_lenient (w := 2) .hour rfl (hour_lt_pow t)), take?_cons hcolon,
    take?_cons (take?_only ':'), take?_cons (take?_lenient (w := 2) .minute rfl (minute_lt_pow t)),
    take?_cons hcolon, take?_cons (take?_only ':'),
    take?_cons (take?_lenient (w := 2) .second rfl (second_lt_pow t)),
    take?_cons (take?_fraction t.fraction_lt hends), take?_cons (take?_blanks hblank)]
  rfl

/-- A time starts with a digit, so that no blanks are taken off in front of it. -/
theorem take?_blanks_time (rest : List Char) :
    Piece.take? f (t.text ++ rest) .blanks = some (f, t.text ++ rest) := by
  rw [Piece.take?, time_text_append, trimStart_paddedDigits]

end

/-! ## The texts of cells -/

theorem Date.ofText?_text (d : Date) : Date.ofText? d.text = some d := by
  have htake := take?_day (f := {}) d.isShort_toDay []
  rw [List.append_nil] at htake
  rw [Date.ofText?, text, read?_eq_some.2 htake, Option.bind_some, Fields.date?_withDay_toDay]

theorem TimeOfDay.ofText?_text (t : TimeOfDay) : TimeOfDay.ofText? t.text = some t.shown := by
  have htake := take?_time (f := {}) t stops_nil
  rw [List.append_nil] at htake
  rw [TimeOfDay.ofText?, List.findSome?_cons, read?_eq_some.2 htake, Option.bind_some,
    Fields.time?_withTime]

theorem Timestamp.ofText?_text (t : Timestamp) : Timestamp.ofText? t.text = some t.shown := by
  have htake : Pattern.take? {} t.text (Pattern.date ++ [.blanks] ++ Pattern.time) =
      some ((Fields.withDay {} t.date.toDay).withTime t.time, []) := by
    have hblank : ∀ f : Fields, Piece.take? f (' ' :: t.time.text) .blanks =
        some (f, t.time.text) := by
      intro f
      have hstart := take?_blanks_time (f := f) t.time []
      rw [List.append_nil] at hstart
      rw [take?_blanks_cons (by decide), hstart]
    have htime := take?_time (f := Fields.withDay {} t.date.toDay) t.time stops_nil
    rw [List.append_nil] at htime
    rw [Timestamp.text, Timestamp.textWith, Date.text, List.append_assoc, take?_append,
      take?_day t.date.isShort_toDay, Option.bind_some, List.singleton_append,
      take?_cons (hblank _), htime]
  rw [Timestamp.ofText?, Pattern.timestamps, List.findSome?_cons, read?_eq_some.2 htake,
    Option.bind_some, Fields.timestamp?_withTime, Fields.date?_withDay_toDay]
  rfl

/-! ## The text of a zoned timestamp -/

namespace ZonedTimestamp

variable {z : ZonedTimestamp}

theorem text_eq (z : ZonedTimestamp) : z.text =
    z.day.text ++ ('T' :: (z.clock.text ++ offsetText z.offset)) := by
  simp [text, clockText]

theorem numberEnds_offsetText (o : Int) : NumberEnds (offsetText o) := by
  unfold offsetText
  split
  · exact stops_cons rfl
  · exact stops_cons rfl

theorem stops_blank_offsetText (o : Int) : Stops isBlank (offsetText o) := by
  unfold offsetText
  split
  · exact stops_cons rfl
  · exact stops_cons rfl

/-- The parts of the day make a date where the clock shows one. -/
theorem ofParts?_day (z : ZonedTimestamp) :
    Date.ofParts? z.day.year z.day.month z.day.day = z.reading?.map (·.date) := by
  unfold day
  cases z.reading? with
  | some t => exact t.date.ofParts?_self
  | none =>
    simp only
    split
    · exact dif_neg fun h => absurd h.minYear_le (by decide)
    · exact dif_neg fun h => absurd h.le_maxYear (by decide)

theorem exists_minutes (hz : z.HasWholeMinutes) : ∃ m, z.offset = 60 * m ∧ m.natAbs < 1440 := by
  have hlt := z.offset_lt
  unfold HasWholeMinutes at hz
  exact ⟨z.offset / 60, by omega, by omega⟩

/-- What the clock shows, with the offset, is the zoned timestamp as it is shown. -/
theorem zoned?_of_clock {m : Int} (hz : z.HasWholeMinutes) (hm : z.offset = 60 * m) :
    { (f.withDay z.day).withTime z.clock with offset := some m }.zoned? =
      z.reading?.map fun _ => z.shown := by
  have htimestamp : ((f.withDay z.day).withTime z.clock).timestamp? =
      z.reading?.map Timestamp.shown := by
    rw [Fields.timestamp?_withTime, Fields.date?_withDay, ofParts?_day]
    cases hr : z.reading? with
    | none => rfl
    | some t =>
      rw [← time_of_reading? hr]
      rfl
  simp only [Fields.zoned?, Fields.timestamp?_offset, htimestamp]
  cases hr : z.reading? with
  | none => rfl
  | some t =>
    rw [Option.map_some, Option.map_some, ← ofReading?_shown hz hr, hm]
    rfl

/-- Whether the year at the offset is written with four digits and no sign. -/
def HasPlainYear (z : ZonedTimestamp) : Prop := 0 ≤ z.day.year ∧ z.day.year ≤ 9999

instance (z : ZonedTimestamp) : Decidable z.HasPlainYear := inferInstanceAs (Decidable (_ ∧ _))

/-- No year beyond all dates is written so. -/
theorem isSome_reading? (h : z.HasPlainYear) : z.reading?.isSome := by
  unfold HasPlainYear day at h
  cases hr : z.reading? with
  | some t => rfl
  | none =>
    rw [hr] at h
    simp only at h
    split at h
    · exact absurd h (by decide)
    · exact absurd h (by decide)

theorem take?_strictZoned {m : Int} (h : z.HasPlainYear) (hm : z.offset = 60 * m)
    (hlt : m.natAbs < 1440) : Pattern.take? {} z.text Pattern.strictZoned =
      some ({ (Fields.withDay {} z.day).withTime z.clock with offset := some m }, []) := by
  have hyear : yearText z.day.year = paddedDigits 4 z.day.year.natAbs := by
    have hneg : ¬ z.day.year < 0 := by
      have := h.1
      omega
    rw [yearText, if_neg hneg, if_pos h.2]
  have hdigits : z.day.year.natAbs < 10 ^ 4 := by
    have := h.1
    have := h.2
    omega
  have hvalue : (z.day.year.natAbs : Int) = z.day.year := Int.natAbs_of_nonneg h.1
  have hday := z.isShort_day
  have hoffset := take?_offset (f := (Fields.withDay {} z.day).withTime z.clock)
    ⟨true, false, false⟩ hlt []
  rw [List.append_nil, ← hm] at hoffset
  simp only [text_eq, day_text_append, time_text_append, hyear, Pattern.strictZoned]
  rw [take?_cons (take?_strict (w := 4) .year rfl hdigits), take?_cons (take?_only '-'),
    take?_cons (take?_strict (w := 2) .month rfl hday.month_lt), take?_cons (take?_only '-'),
    take?_cons (take?_strict (w := 2) .day rfl hday.day_lt), take?_cons (take?_mark (by decide)),
    take?_cons (take?_strict (w := 2) .hour rfl (hour_lt_pow _)), take?_cons (take?_only ':'),
    take?_cons (take?_strict (w := 2) .minute rfl (minute_lt_pow _)), take?_cons (take?_only ':'),
    take?_cons (take?_strict (w := 2) .second rfl (second_lt_pow _)),
    take?_cons (take?_fraction z.clock.fraction_lt (numberEnds_offsetText _))]
  simp only [Slot.put, hvalue, Int.toNat_natCast]
  exact take?_cons hoffset

/-- A signed year does not start with a digit. -/
theorem take?_strictZoned_none (h : ¬ z.HasPlainYear) :
    Pattern.take? {} z.text Pattern.strictZoned = none := by
  have hyear : ∃ c cs, z.text = c :: cs ∧ isDigit c = false := by
    rw [text_eq, day_text_append]
    unfold yearText
    by_cases hneg : z.day.year < 0
    · rw [if_pos hneg]
      exact ⟨'-', _, rfl, rfl⟩
    · have hlong : ¬ z.day.year ≤ 9999 := fun hle => h ⟨Int.not_lt.1 hneg, hle⟩
      rw [if_neg hneg, if_neg hlong]
      exact ⟨'+', _, rfl, rfl⟩
  obtain ⟨c, cs, htext, hc⟩ := hyear
  simp [htext, Pattern.strictZoned, Pattern.take?, Piece.take?, Slot.takeStrict?, Slot.width,
    takeDigits, hc]

/-- The text of a zoned timestamp has a mark after the date that the looser form does not take. -/
theorem take?_looseZoned_none :
    Pattern.take? {} z.text
      (Pattern.date ++ [.blanks] ++ Pattern.time ++ [.blanks, .offset ⟨false, false, true⟩]) =
      none := by
  rw [text_eq, List.append_assoc, List.append_assoc, take?_append, take?_day z.isShort_day]
  rfl

/-- Without its offset the text is no text of a timestamp either. -/
theorem timestamp_ofText?_text : Timestamp.ofText? z.text = none := by
  have hmark : ∀ p : Pattern,
      Pattern.read? (Pattern.date ++ [.blanks] ++ .hour :: p) z.text = none := by
    intro p
    rw [Pattern.read?, text_eq, List.append_assoc, take?_append, take?_day z.isShort_day]
    rfl
  have hoffset : Pattern.read? (Pattern.date ++ [.only 'T'] ++ Pattern.time) z.text = none := by
    rw [Pattern.read?, text_eq, List.append_assoc, take?_append, take?_day z.isShort_day,
      Option.bind_some, List.singleton_append, take?_cons (take?_only 'T'),
      take?_time _ (numberEnds_offsetText z.offset)]
    rfl
  have hdate : Date.ofText? z.text = none := by
    rw [Date.ofText?, Pattern.read?, text_eq, take?_day z.isShort_day]
    rfl
  rw [Timestamp.ofText?, Pattern.timestamps, List.findSome?_cons, List.findSome?_cons, hoffset,
    List.findSome?_cons, Pattern.time, Pattern.shortTime, hmark, hmark, hdate]
  rfl

/-- **The text of a zoned timestamp is read as it is shown if its year has four digits and no sign,
and else it is not read.** -/
theorem ofText?_text (hz : z.HasWholeMinutes) :
    ofText? z.text = if z.HasPlainYear then some z.shown else none := by
  rw [ofText?, Pattern.zoned, List.findSome?_cons, List.findSome?_cons, List.findSome?_nil,
    timestamp_ofText?_text]
  have hloose : Pattern.read? (Pattern.date ++ [.blanks] ++ Pattern.time ++
      [.blanks, .offset ⟨false, false, true⟩]) z.text = none := by
    rw [Pattern.read?, take?_looseZoned_none]
  by_cases h : z.HasPlainYear
  · obtain ⟨m, hm, hlt⟩ := exists_minutes hz
    obtain ⟨t, ht⟩ := Option.isSome_iff_exists.1 (isSome_reading? h)
    rw [if_pos h, read?_eq_some.2 (take?_strictZoned h hm hlt), Option.bind_some,
      zoned?_of_clock hz hm, ht]
    rfl
  · have hstrict : Pattern.strictZoned.read? z.text = none := by
      rw [Pattern.read?, take?_strictZoned_none h]
    rw [if_neg h, hstrict, hloose]
    rfl

end ZonedTimestamp

/-! ## No blanks at the ends -/

theorem not_isBlank_of_mem_paddedDigits {w n : Nat} {c : Char} (h : c ∈ paddedDigits w n) :
    isBlank c = false :=
  not_isBlank_of_isDigit (isDigit_of_mem_paddedDigits h)

theorem not_isBlank_of_mem_yearText {year : Int} {c : Char} (h : c ∈ yearText year) :
    isBlank c = false := by
  unfold yearText at h
  split at h
  · rcases List.mem_cons.1 h with rfl | h
    · rfl
    · exact not_isBlank_of_mem_paddedDigits h
  · split at h
    · exact not_isBlank_of_mem_paddedDigits h
    · rcases List.mem_cons.1 h with rfl | h
      · rfl
      · exact not_isBlank_of_mem_paddedDigits h

theorem not_isBlank_of_mem_fractionText {nanos : Nat} {c : Char} (h : c ∈ fractionText nanos) :
    isBlank c = false := by
  have hpoint : ∀ {w n : Nat}, c ∈ '.' :: paddedDigits w n → isBlank c = false := by
    intro w n hc
    rcases List.mem_cons.1 hc with rfl | hc
    · rfl
    · exact not_isBlank_of_mem_paddedDigits hc
  unfold fractionText at h
  split at h
  · cases h
  · split at h
    · exact hpoint h
    · split at h
      · exact hpoint h
      · exact hpoint h

theorem Day.not_isBlank_of_mem_text {d : Day} {c : Char} (h : c ∈ d.text) :
    isBlank c = false := by
  simp only [Day.text, List.mem_append, List.mem_cons] at h
  rcases h with (h | rfl | h) | rfl | h
  · exact not_isBlank_of_mem_yearText h
  · rfl
  · exact not_isBlank_of_mem_paddedDigits h
  · rfl
  · exact not_isBlank_of_mem_paddedDigits h

theorem TimeOfDay.not_isBlank_of_mem_text {t : TimeOfDay} {c : Char} (h : c ∈ t.text) :
    isBlank c = false := by
  simp only [TimeOfDay.text, List.mem_append, List.mem_cons] at h
  rcases h with ((h | rfl | h) | rfl | h) | h
  · exact not_isBlank_of_mem_paddedDigits h
  · rfl
  · exact not_isBlank_of_mem_paddedDigits h
  · rfl
  · exact not_isBlank_of_mem_paddedDigits h
  · exact not_isBlank_of_mem_fractionText h

theorem Day.text_ne_nil (d : Day) : d.text ≠ [] := by simp [Day.text]

theorem TimeOfDay.text_ne_nil (t : TimeOfDay) : t.text ≠ [] := by simp [TimeOfDay.text]

theorem Date.trim_text (d : Date) : trim d.text = d.text :=
  trim_eq_self fun _ => Day.not_isBlank_of_mem_text

theorem TimeOfDay.trim_text (t : TimeOfDay) : trim t.text = t.text :=
  trim_eq_self fun _ => TimeOfDay.not_isBlank_of_mem_text

theorem Timestamp.trim_text (t : Timestamp) : trim t.text = t.text := by
  have hblank := trim_append t.date.toDay.text_ne_nil t.time.text_ne_nil
    (fun _ => Day.not_isBlank_of_mem_text) (fun _ => TimeOfDay.not_isBlank_of_mem_text) [' ']
  rwa [List.append_assoc, List.singleton_append] at hblank

theorem ZonedTimestamp.trim_text (z : ZonedTimestamp) : trim z.text = z.text := by
  have hoffset : ∀ c ∈ offsetText z.offset, isBlank c = false := by
    intro c hc
    simp only [offsetText, List.mem_cons, List.mem_append] at hc
    rcases hc with rfl | hc | rfl | hc
    · split <;> rfl
    · exact not_isBlank_of_mem_paddedDigits hc
    · rfl
    · exact not_isBlank_of_mem_paddedDigits hc
  refine trim_eq_self fun c hc => ?_
  simp only [text_eq, List.mem_append, List.mem_cons] at hc
  rcases hc with hc | rfl | hc | hc
  · exact Day.not_isBlank_of_mem_text hc
  · rfl
  · exact TimeOfDay.not_isBlank_of_mem_text hc
  · exact hoffset c hc

/-! ## The interchange forms -/

theorem Date.ofInterchange?_text (d : Date) : Date.ofInterchange? d.text = some d := by
  have htake : Pattern.take? {} d.text Pattern.interchangeDate =
      some (Fields.withDay {} d.toDay, []) := by
    have hdate := take?_spacedDay (f := {}) d.isShort_toDay []
    rw [List.append_nil] at hdate
    rw [Pattern.interchangeDate, text, take?_append, hdate]
    rfl
  rw [Date.ofInterchange?, read?_eq_some.2 htake, Option.bind_some, Fields.date?_withDay_toDay]

theorem TimeOfDay.ofInterchange?_text (t : TimeOfDay) :
    TimeOfDay.ofInterchange? t.text = some t.shown := by
  have htake : Pattern.take? {} t.text
      (Pattern.spacedShortTime ++ Pattern.spacedSeconds ++ [.blanks]) =
      some (Fields.withTime {} t, []) := by
    have htime := take?_spacedTime (f := {}) t stops_nil stops_nil
    rw [List.append_nil] at htime
    rw [take?_append, htime]
    rfl
  rw [TimeOfDay.ofInterchange?, Pattern.interchangeTimes, List.findSome?_cons,
    read?_eq_some.2 htake, Option.bind_some, Fields.time?_withTime]

theorem Timestamp.ofInterchange?_interchange (t : Timestamp) :
    Timestamp.ofInterchange? t.interchange = some t.shown := by
  have htake : Pattern.take? {} t.interchange Pattern.interchangeTimestamp =
      some ((Fields.withDay {} t.date.toDay).withTime t.time, []) := by
    have hmark : ∀ {f : Fields} {cs : List Char},
        Pattern.take? f ('T' :: cs) [.blanks, .only 'T'] = some (f, cs) := rfl
    have htime := take?_spacedTime (f := Fields.withDay {} t.date.toDay) t.time
      stops_nil stops_nil
    rw [List.append_nil] at htime
    rw [Timestamp.interchange, Timestamp.textWith, Date.text, Pattern.interchangeTimestamp,
      List.append_assoc, List.append_assoc, take?_append, take?_spacedDay t.date.isShort_toDay,
      Option.bind_some, take?_append, hmark, Option.bind_some, htime]
  rw [Timestamp.ofInterchange?, read?_eq_some.2 htake, Option.bind_some,
    Fields.timestamp?_withTime, Fields.date?_withDay_toDay]
  rfl

/-- **The interchange form of a zoned timestamp is read as it is shown if its clock shows a date,
and else it is not read.** -/
theorem ZonedTimestamp.ofInterchange?_interchange {z : ZonedTimestamp} (hz : z.HasWholeMinutes) :
    ofInterchange? z.interchange = z.reading?.map fun _ => z.shown := by
  obtain ⟨m, hm, hlt⟩ := exists_minutes hz
  have htext : z.interchange = z.day.text ++ ('T' :: (z.clock.text ++
      if z.offset = 0 then ['Z'] else offsetText z.offset)) := by
    simp [interchange, clockText]
  have hoffset : ∀ {f : Fields}, Pattern.take? f
      (if z.offset = 0 then ['Z'] else offsetText z.offset)
      [.blanks, .offset ⟨true, true, true⟩, .blanks] =
      some ({ f with offset := some m }, []) := by
    intro f
    by_cases hzero : z.offset = 0
    · have hnone : m = 0 := by omega
      rw [if_pos hzero, hnone]
      rfl
    · have htake := take?_offset (f := f) ⟨true, true, true⟩ hlt []
      rw [List.append_nil, ← hm] at htake
      rw [if_neg hzero, take?_cons (take?_blanks (stops_blank_offsetText z.offset)),
        take?_cons htake]
      rfl
  have hends : NumberEnds (if z.offset = 0 then ['Z'] else offsetText z.offset) := by
    split
    · exact stops_cons rfl
    · exact numberEnds_offsetText z.offset
  have hblank : Stops isBlank (if z.offset = 0 then ['Z'] else offsetText z.offset) := by
    split
    · exact stops_cons rfl
    · exact stops_blank_offsetText z.offset
  have htake : Pattern.take? {} z.interchange Pattern.interchangeZoned =
      some ({ (Fields.withDay {} z.day).withTime z.clock with offset := some m }, []) := by
    rw [htext, Pattern.interchangeZoned, List.append_assoc, List.append_assoc, List.append_assoc,
      take?_append, take?_spacedDay z.isShort_day, Option.bind_some, List.singleton_append,
      take?_cons (take?_mark (by decide)), ← List.append_assoc, take?_append,
      take?_spacedTime _ hends hblank, Option.bind_some, hoffset]
  rw [ofInterchange?, read?_eq_some.2 htake, Option.bind_some, zoned?_of_clock hz hm]

end TableDiff.Calendar
