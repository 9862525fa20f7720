import Mathlib.Data.List.DropRight
import TableDiff.Proofs.Calendar.Pieces

/-!
# Texts that fit one form only

The forms of dates, times, timestamps and zoned timestamps begin alike, but no text fits two of
them that would make different things of it: a timestamp is no time of day
(`TimeOfDay.ofText?_eq_none_of_timestamp`), its date is the date that is read from the text
(`Date.ofText?_or_timestamp`), and as a zoned timestamp it is read in UTC
(`ZonedTimestamp.ofText?_of_timestamp`).
-/

namespace TableDiff.Calendar

open TableDiff.Text

variable {f g : Fields} {cs ds rest : List Char} {c : Char} {w : Nat} {q : Pattern}

/-! ## Runs of digits -/

/-- The digits that are taken off, and what is left. -/
theorem eq_append_of_takeDigits (h : takeDigits w cs = (ds, rest)) :
    cs = ds ++ rest ∧ (∀ c ∈ ds, isDigit c = true) ∧ ds.length ≤ w := by
  induction w generalizing cs ds with
  | zero =>
    cases h
    exact ⟨rfl, by simp, Nat.le_refl 0⟩
  | succ w ih =>
    cases cs with
    | nil =>
      cases h
      exact ⟨rfl, by simp, Nat.zero_le _⟩
    | cons c cs =>
      by_cases hc : isDigit c = true
      · rw [takeDigits, if_pos hc] at h
        cases h
        obtain ⟨hcs, hall, hlength⟩ := ih rfl
        exact ⟨congrArg (c :: ·) hcs, List.forall_mem_cons.2 ⟨hc, hall⟩, Nat.succ_le_succ hlength⟩
      · rw [takeDigits, if_neg hc] at h
        cases h
        exact ⟨rfl, by simp, Nat.zero_le _⟩

theorem eq_append_of_takeNumber? {n : Nat} (h : takeNumber? w cs = some (n, rest)) :
    ∃ ds, cs = ds ++ rest ∧ ds ≠ [] ∧ (∀ c ∈ ds, isDigit c = true) ∧ ds.length ≤ w := by
  unfold takeNumber? at h
  split at h
  next => cases h
  next ds _ hne heq =>
    cases h
    obtain ⟨hcs, hall, hlength⟩ := eq_append_of_takeDigits heq
    exact ⟨ds, hcs, hne, hall, hlength⟩

/-! ## Single pieces -/

theorem take?_cons_eq_some {piece : Piece} {p : Pattern} {r : Fields × List Char} :
    Pattern.take? f cs (piece :: p) = some r ↔
      ∃ s, piece.take? f cs = some s ∧ Pattern.take? s.1 s.2 p = some r := by
  rw [Pattern.take?]
  cases piece.take? f cs with
  | none => simp
  | some s => simp

theorem eq_cons_of_take?_mark {choices : List Char} {s : Fields × List Char}
    (h : Piece.take? f cs (.mark choices) = some s) : ∃ c ∈ choices, cs = c :: s.2 ∧ f = s.1 := by
  cases cs with
  | nil => cases h
  | cons c cs =>
    rw [Piece.take?] at h
    split at h
    next hc =>
      cases h
      exact ⟨c, hc, rfl, rfl⟩
    next => cases h

theorem eq_cons_of_take?_only {s : Fields × List Char}
    (h : Piece.take? f cs (.only c) = some s) : cs = c :: s.2 ∧ f = s.1 := by
  obtain ⟨c', hc', hcs⟩ := eq_cons_of_take?_mark h
  rw [List.mem_singleton.1 hc'] at hcs
  exact hcs

/-! ## Strict and lenient numbers -/

/-- The piece with its strict number made lenient. -/
def Piece.relaxed : Piece → Piece
  | .strict slot => .lenient slot
  | piece => piece

theorem Slot.takeLenient?_of_takeStrict? {slot : Slot} {n : Int}
    (h : slot.takeStrict? cs = some (n, rest)) : slot.takeLenient? cs = some (n, rest) := by
  have hwidth := slot.width_pos
  unfold Slot.takeStrict? at h
  cases htake : takeDigits slot.width cs with
  | mk ds tail =>
    rw [htake] at h
    dsimp only at h
    split at h
    next hlength =>
      cases h
      obtain ⟨rfl, hall, -⟩ := eq_append_of_takeDigits htake
      cases ds with
      | nil =>
        rw [List.length_nil] at hlength
        omega
      | cons c ds =>
        have hnumber : takeNumber? slot.width ((c :: ds) ++ rest) =
            some (natOfDigits (c :: ds), rest) :=
          takeNumber?_append (List.cons_ne_nil c ds) hall hlength.le (.inl hlength)
        rw [List.cons_append] at hnumber ⊢
        rw [takeLenient?_of_digit slot (hall c List.mem_cons_self), hnumber]
        rfl
    next => cases h

/-- What is read strictly can be read leniently. -/
theorem take?_relaxed {p : Pattern} {r : Fields × List Char} (h : Pattern.take? f cs p = some r) :
    Pattern.take? f cs (p.map Piece.relaxed) = some r := by
  induction p generalizing f cs with
  | nil => exact h
  | cons piece p ih =>
    rw [Pattern.take?] at h
    cases hpiece : piece.take? f cs with
    | none =>
      rw [hpiece] at h
      cases h
    | some s =>
      rw [hpiece] at h
      have hrelaxed : piece.relaxed.take? f cs = some s := by
        cases piece with
        | strict slot =>
          obtain ⟨⟨n, tail⟩, htake, hs⟩ := Option.map_eq_some_iff.1 hpiece
          exact Option.map_eq_some_iff.2 ⟨_, Slot.takeLenient?_of_takeStrict? htake, hs⟩
        | _ => exact hpiece
      rw [List.map_cons, take?_cons hrelaxed]
      exact ih h

/-! ## A time after a date -/

/-- A number is looked for behind blanks. -/
theorem Slot.takeLenient?_trimStart (slot : Slot) (cs : List Char) :
    slot.takeLenient? (trimStart cs) = slot.takeLenient? cs := by
  have htrim : trimStart (trimStart cs) = trimStart cs := List.dropWhile_idempotent _ _
  simp only [Slot.takeLenient?, htrim]

theorem take?_trimStart_hour (cs : List Char) (q : Pattern) :
    Pattern.take? f (trimStart cs) (.hour :: q) = Pattern.take? f cs (.hour :: q) := by
  simp only [Pattern.take?, Piece.hour, Piece.take?, Slot.takeLenient?_trimStart]

theorem take?_blanks_hour (cs : List Char) (q : Pattern) :
    Pattern.take? f cs (.blanks :: .hour :: q) = Pattern.take? f cs (.hour :: q) :=
  take?_trimStart_hour cs q

theorem take?_hour_eq_none (hdigit : isDigit c = false) (hblank : isBlank c = false) :
    Pattern.take? f (c :: cs) (.hour :: q) = none := by
  have htrim : trimStart (c :: cs) = c :: cs := trimStart_of_stops (stops_cons hblank)
  have hdigits : takeDigits 2 (c :: cs) = ([], c :: cs) := takeDigits_of_stops (stops_cons hdigit) 2
  have hnumber : takeNumber? 2 (c :: cs) = none := by
    rw [takeNumber?, hdigits]
  simp only [Pattern.take?, Piece.hour, Piece.take?, Slot.takeLenient?, htrim, Slot.width, hnumber,
    Option.map_none]

/-- The text is a time with or without seconds. -/
def TimeOnly (f : Fields) (cs : List Char) : Prop :=
  (∃ g, Pattern.take? f cs Pattern.time = some (g, [])) ∨
    ∃ g, Pattern.take? f cs Pattern.shortTime = some (g, [])

/-- After the end of a time there is no room for a text that needs some character. -/
theorem TimeOnly.take?_eq_none (h : TimeOnly f cs) (hq : ∀ g, Pattern.take? g [] q = none) :
    Pattern.take? f cs (Pattern.time ++ q) = none := by
  rcases h with ⟨g, hg⟩ | ⟨g, hg⟩
  · rw [take?_append, hg]
    exact hq g
  · have hsplit : Pattern.time ++ q =
        Pattern.shortTime ++ ([.only ':', .second, .fraction] ++ q) := rfl
    rw [hsplit, take?_append, hg]
    rfl

theorem not_timeOnly_cons (hdigit : isDigit c = false) (hblank : isBlank c = false) :
    ¬ TimeOnly f (c :: cs) := by
  rintro (⟨g, hg⟩ | ⟨g, hg⟩)
  · rw [Pattern.time, take?_hour_eq_none hdigit hblank] at hg
    cases hg
  · rw [Pattern.shortTime, take?_hour_eq_none hdigit hblank] at hg
    cases hg

/-- What follows the date in a timestamp: nothing, a time behind blanks, or one behind a `T`. -/
inductive EndsTimestamp (f : Fields) : List Char → Prop
  | date : EndsTimestamp f []
  | time {rest : List Char} (h : TimeOnly f rest) : EndsTimestamp f rest
  | marked {rest : List Char} (h : TimeOnly f rest) : EndsTimestamp f ('T' :: rest)

/-! ## Timestamps -/

theorem exists_take?_of_read? {p q : Pattern} (h : (p ++ q).read? cs = some g) :
    ∃ f rest, Pattern.take? {} cs p = some (f, rest) ∧ Pattern.take? f rest q = some (g, []) := by
  rw [read?_eq_some, take?_append] at h
  obtain ⟨⟨f, rest⟩, hp, hq⟩ := Option.bind_eq_some_iff.1 h
  exact ⟨f, rest, hp, hq⟩

theorem exists_date_of_timestamp {t : Timestamp} (h : Timestamp.ofText? cs = some t) :
    ∃ f rest, Pattern.take? {} cs Pattern.date = some (f, rest) ∧ EndsTimestamp f rest := by
  unfold Timestamp.ofText? at h
  split at h
  next t' hfound =>
    obtain ⟨p, hp, hread⟩ := List.exists_of_findSome?_eq_some hfound
    obtain ⟨g, hg, -⟩ := Option.bind_eq_some_iff.1 hread
    simp only [Pattern.timestamps, List.append_assoc, List.mem_cons, List.not_mem_nil,
      or_false] at hp
    rcases hp with rfl | rfl | rfl
    · obtain ⟨f, rest, hdate, htime⟩ := exists_take?_of_read? hg
      rw [List.singleton_append, Pattern.time, take?_blanks_hour] at htime
      exact ⟨f, rest, hdate, .time (.inl ⟨g, htime⟩)⟩
    · obtain ⟨f, rest, hdate, htime⟩ := exists_take?_of_read? hg
      obtain ⟨s, hmark, htime⟩ := take?_cons_eq_some.1 htime
      obtain ⟨rfl, rfl⟩ := eq_cons_of_take?_only hmark
      exact ⟨s.1, _, hdate, .marked (.inl ⟨g, htime⟩)⟩
    · obtain ⟨f, rest, hdate, htime⟩ := exists_take?_of_read? hg
      rw [List.singleton_append, Pattern.shortTime, take?_blanks_hour] at htime
      exact ⟨f, rest, hdate, .time (.inr ⟨g, htime⟩)⟩
  next =>
    obtain ⟨d, hd, -⟩ := Option.map_eq_some_iff.1 h
    obtain ⟨f, hf, -⟩ := Option.bind_eq_some_iff.1 hd
    exact ⟨f, [], read?_eq_some.1 hf, .date⟩

/-- A text that ends where its date ends is no timestamp with a time. -/
theorem read?_timestamps_of_date (h : Pattern.date.read? cs = some f) :
    ∀ p ∈ Pattern.timestamps, p.read? cs = none := by
  have hdate := read?_eq_some.1 h
  intro p hp
  simp only [Pattern.timestamps, List.append_assoc, List.mem_cons, List.not_mem_nil,
    or_false] at hp
  rcases hp with rfl | rfl | rfl <;> rw [Pattern.read?, take?_append, hdate] <;> rfl

/-- The date of a timestamp is what is read from its text as a date. -/
theorem Date.ofText?_or_timestamp {t : Timestamp} (h : Timestamp.ofText? cs = some t) :
    (Date.ofText? cs).or ((Timestamp.ofText? cs).map (·.date)) = some t.date := by
  cases hd : Date.ofText? cs with
  | none => rw [h, Option.none_or, Option.map_some]
  | some d =>
    obtain ⟨f, hf, -⟩ := Option.bind_eq_some_iff.1 hd
    have hnone : (Pattern.timestamps.findSome? fun p => (p.read? cs).bind Fields.timestamp?) =
        none := by
      refine List.findSome?_eq_none_iff.2 fun p hp => ?_
      rw [read?_timestamps_of_date hf p hp, Option.bind_none]
    rw [Timestamp.ofText?, hnone, hd] at h
    cases h
    rfl

/-! ## Times of day -/

theorem eq_append_of_take?_hour {s : Fields × List Char} (h : Piece.take? f cs .hour = some s) :
    ∃ ds, trimStart cs = ds ++ s.2 ∧ ds ≠ [] ∧ (∀ c ∈ ds, isDigit c = true) ∧ ds.length ≤ 2 := by
  obtain ⟨r, hr, rfl⟩ := Option.map_eq_some_iff.1 h
  obtain ⟨n, hn, rfl⟩ := Option.map_eq_some_iff.1 hr
  exact eq_append_of_takeNumber? hn

/-- A year takes all the digits that an hour takes, if these end. -/
theorem take?_year_of_digits {s : Fields × List Char} (hcs : trimStart cs = ds ++ rest)
    (hne : ds ≠ []) (hall : ∀ c ∈ ds, isDigit c = true) (hlength : ds.length ≤ 4)
    (hends : NumberEnds rest) (h : Piece.take? f cs .year = some s) : s.2 = rest := by
  obtain ⟨r, hr, rfl⟩ := Option.map_eq_some_iff.1 h
  obtain ⟨c, ds, rfl⟩ := List.exists_cons_of_ne_nil hne
  have hnumber := takeNumber?_append hne hall hlength (.inr hends)
  rw [← Slot.takeLenient?_trimStart, hcs, List.cons_append,
    takeLenient?_of_digit .year (hall c List.mem_cons_self)] at hr
  rw [List.cons_append] at hnumber
  rw [Slot.width, hnumber] at hr
  cases hr
  rfl

/-- A text does not start with a year and a hyphen and also with an hour and a colon. -/
theorem take?_hour_of_year {p q : Pattern} {r : Fields × List Char}
    (h : Pattern.take? f cs (.year :: .only '-' :: p) = some r) :
    Pattern.take? g cs (.hour :: .only ':' :: q) = none := by
  rw [Option.eq_none_iff_forall_ne_some]
  intro r' hr'
  obtain ⟨s, hyear, htail⟩ := take?_cons_eq_some.1 h
  obtain ⟨s', hhour, htail'⟩ := take?_cons_eq_some.1 hr'
  obtain ⟨_, hhyphen, -⟩ := take?_cons_eq_some.1 htail
  obtain ⟨_, hcolon, -⟩ := take?_cons_eq_some.1 htail'
  obtain ⟨ds, hcs, hne, hall, hlength⟩ := eq_append_of_take?_hour hhour
  have hafter := (eq_cons_of_take?_only hcolon).1
  have hends : NumberEnds s'.2 := by
    rw [hafter]
    exact stops_cons rfl
  have hsame := take?_year_of_digits hcs hne hall (by omega) hends hyear
  rw [(eq_cons_of_take?_only hhyphen).1, hafter] at hsame
  cases hsame

theorem TimeOfDay.ofText?_eq_none_of_timestamp {t : Timestamp}
    (h : Timestamp.ofText? cs = some t) : TimeOfDay.ofText? cs = none := by
  obtain ⟨f, rest, hdate, -⟩ := exists_date_of_timestamp h
  refine List.findSome?_eq_none_iff.2 fun p hp => ?_
  have hnone : p.read? cs = none := by
    simp only [List.mem_cons, List.not_mem_nil, or_false] at hp
    rcases hp with rfl | rfl
    · rw [Pattern.read?, Pattern.time, take?_hour_of_year hdate]
    · rw [Pattern.read?, Pattern.shortTime, take?_hour_of_year hdate]
  rw [hnone, Option.bind_none]

/-! ## Zoned timestamps -/

theorem EndsTimestamp.loose (h : EndsTimestamp f rest) (hq : ∀ g, Pattern.take? g [] q = none) :
    Pattern.take? f rest (Pattern.time ++ q) = none := by
  cases h with
  | date => rfl
  | time h => exact h.take?_eq_none hq
  | marked h => exact take?_hour_eq_none rfl rfl

theorem EndsTimestamp.strict (h : EndsTimestamp f rest) (hq : ∀ g, Pattern.take? g [] q = none) :
    Pattern.take? f rest (.mark ['T', 't', ' '] :: (Pattern.time ++ q)) = none := by
  rw [Option.eq_none_iff_forall_ne_some]
  intro r hr
  obtain ⟨s, hmark, htime⟩ := take?_cons_eq_some.1 hr
  obtain ⟨c, hc, rfl, rfl⟩ := eq_cons_of_take?_mark hmark
  simp only [List.mem_cons, List.not_mem_nil, or_false] at hc
  cases h with
  | time h =>
    rcases hc with rfl | rfl | rfl
    · exact not_timeOnly_cons rfl rfl h
    · exact not_timeOnly_cons rfl rfl h
    · -- the blank may as well be left to the hour
      have hblank : Pattern.take? s.1 (' ' :: s.2) (Pattern.time ++ q) = some r :=
        (take?_blanks_hour (' ' :: s.2) _).symm.trans ((take?_blanks_hour s.2 _).trans htime)
      rw [h.take?_eq_none hq] at hblank
      cases hblank
  | marked h =>
    rw [h.take?_eq_none hq] at htime
    cases htime

theorem read?_zoned_of_timestamp {t : Timestamp} (h : Timestamp.ofText? cs = some t) :
    ∀ p ∈ Pattern.zoned, p.read? cs = none := by
  obtain ⟨f, rest, hdate, hends⟩ := exists_date_of_timestamp h
  intro p hp
  simp only [Pattern.zoned, List.mem_cons, List.not_mem_nil, or_false] at hp
  rcases hp with rfl | rfl
  · have hstrict : Pattern.take? {} cs (Pattern.strictZoned.map Piece.relaxed) = none := by
      have hform : Pattern.strictZoned.map Piece.relaxed = Pattern.date ++
          .mark ['T', 't', ' '] :: (Pattern.time ++ [.offset ⟨true, false, false⟩]) := rfl
      rw [hform, take?_append, hdate]
      exact hends.strict fun _ => rfl
    rw [Option.eq_none_iff_forall_ne_some]
    intro g hg
    rw [take?_relaxed (read?_eq_some.1 hg)] at hstrict
    cases hstrict
  · have htail : Pattern.take? f rest ([.blanks] ++ (Pattern.time ++
        [.blanks, .offset ⟨false, false, true⟩])) = none :=
      (take?_blanks_hour rest _).trans (hends.loose fun _ => rfl)
    rw [Pattern.read?, List.append_assoc, List.append_assoc, take?_append, hdate, Option.bind_some,
      htail]

theorem ZonedTimestamp.ofText?_of_timestamp {t : Timestamp} (h : Timestamp.ofText? cs = some t) :
    ZonedTimestamp.ofText? cs = some (.ofUtc t) := by
  have hnone : (Pattern.zoned.findSome? fun p => (p.read? cs).bind Fields.zoned?) = none := by
    refine List.findSome?_eq_none_iff.2 fun p hp => ?_
    rw [read?_zoned_of_timestamp h p hp, Option.bind_none]
  rw [ZonedTimestamp.ofText?, hnone, h, Option.map_some]

end TableDiff.Calendar
