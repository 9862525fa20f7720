import TableDiff.Interchange.Report
import TableDiff.Proofs.Interchange.Value
import TableDiff.Proofs.Json.RoundTrip

/-!
# Reports are read back from JSON

Every kind of mismatch is found by its tag and read back from its fields
(`Mismatch.ofJson?_toJson`), and so is a report from its JSON form and from its JSON text
(`Report.ofJsonText?_jsonText`), values as their text shows them. Counts and row numbers must be
machine words, no cell may hold a floating point number, and offsets must be whole minutes. The
report that is read is then the same as the written one exactly if the clocks in it show dates and
its leap seconds end minutes (`Report.jsonText_loses_nothing_iff`): decimals come back with their
scale, and only a decimal zero loses its sign.
-/

namespace TableDiff

open TableDiff.Calendar TableDiff.Numeric

variable {form : FloatForm}

/-! ## Mismatches -/

theorem MismatchCode.find?_kindTag (code : MismatchCode) :
    MismatchCode.all.find? (·.kindTag = code.kindTag) = some code := by
  cases code <;> decide

namespace Mismatch

variable {m : Mismatch}

/-- The numbers of the entry are machine words. -/
def WordSized : Mismatch → Prop
  | rowCount _ expected actual => IsWord expected ∧ IsWord actual
  | cell c => IsWord c.row
  | _ => True

/-- The values that the entry is about. -/
def values : Mismatch → List Value
  | cell c => [c.expected, c.actual]
  | _ => []

/-- The entry, values as their text shows them. -/
def plain : Mismatch → Mismatch
  | cell c => cell { c with expected := c.expected.plain, actual := c.actual.plain }
  | m => m

/-- Whether two entries are the same, values being compared as such. -/
def same : Mismatch → Mismatch → Bool
  | cell a, cell b =>
    a.table == b.table && a.row == b.row && a.column == b.column && a.expected.same b.expected &&
      a.actual.same b.actual && a.comparedAs == b.comparedAs
  | a, b => a == b

theorem forall_mem_values_cell {p : Value → Prop} {c : CellMismatch} :
    (∀ v ∈ (cell c).values, p v) ↔ p c.expected ∧ p c.actual := by
  simp [values]

theorem same_plain_iff (hfloat : ∀ v ∈ m.values, v.kind ≠ .float) :
    m.plain.same m = true ↔ ∀ v ∈ m.values, v.LeapEndsMinute := by
  cases m with
  | cell c =>
    obtain ⟨hexpected, hactual⟩ := forall_mem_values_cell.1 hfloat
    simp [forall_mem_values_cell, plain, same, Value.same_plain_iff hexpected,
      Value.same_plain_iff hactual]
  | _ => simp [values, plain, same]

theorem splitKind?_toJson (m : Mismatch) :
    splitKind? (m.toJson form) = some (m.code, .object (m.members form)) := by
  have hfind := MismatchCode.find?_kindTag m.code
  have hmembers : ∀ p ∈ m.members form, p.1 ≠ "kind" := by cases m <;> simp [members]
  have htag : (("kind", .string m.code.kindTag) :: m.members form).filter
      (fun p : String × Json => p.1 = "kind") = [("kind", .string m.code.kindTag)] := by
    rw [List.filter_cons_of_pos (by simp), List.filter_eq_nil_iff.2 (by simpa using hmembers)]
  have hrest : (("kind", .string m.code.kindTag) :: m.members form).filter
      (fun p : String × Json => p.1 ≠ "kind") = m.members form := by
    rw [List.filter_cons_of_neg (by simp), List.filter_eq_self.2 (by simpa using hmembers)]
  simp only [splitKind?, toJson, htag, hrest, Json.string?, Option.bind_some, hfind,
    Option.map_some]

theorem ofTable?_object (make : String → Mismatch) (t : String) :
    ofTable? make (.object [("table", .string t)]) = some (make t) := by
  rw [ofTable?, Json.record?_object (by simp) (by simp)]
  rfl

theorem ofColumn?_object (make : String → String → Mismatch) (t c : String) :
    ofColumn? make (.object [("table", .string t), ("column", .string c)]) = some (make t c) := by
  rw [ofColumn?, Json.record?_object (by simp) (by simp)]
  rfl

/-- **An entry is read back from its JSON form**, whatever it is about, if the clocks in it show
dates. -/
theorem ofJson?_toJson (hword : m.WordSized) (hfloat : ∀ v ∈ m.values, v.kind ≠ .float)
    (hminutes : ∀ v ∈ m.values, v.HasWholeMinutes) :
    ofJson? form (m.toJson form) =
      if ∀ v ∈ m.values, v.ShowsDate then some m.plain else none := by
  rw [ofJson?, splitKind?_toJson]
  cases m with
  | missingTable t =>
    exact (ofTable?_object missingTable t).trans (if_pos (List.forall_mem_nil _)).symm
  | missingColumn t c =>
    exact (ofColumn?_object missingColumn t c).trans (if_pos (List.forall_mem_nil _)).symm
  | unexpectedTable t =>
    exact (ofTable?_object unexpectedTable t).trans (if_pos (List.forall_mem_nil _)).symm
  | unexpectedColumn t c =>
    exact (ofColumn?_object unexpectedColumn t c).trans (if_pos (List.forall_mem_nil _)).symm
  | rowCount t expected actual =>
    have hexpected : (Json.ofNat expected).nat? = some expected := Json.nat?_ofNat hword.1
    have hactual : (Json.ofNat actual).nat? = some actual := Json.nat?_ofNat hword.2
    simp only [code, members, Option.bind_eq_bind, Option.bind_some, ofCounts?]
    rw [Json.record?_object (by simp) (by simp)]
    simp [Json.Record.required_head, Json.Record.required_tail, Json.string?, hexpected, hactual,
      values, plain]
  | cell c =>
    have hrow : (Json.ofNat c.row).nat? = some c.row := Json.nat?_ofNat hword
    rw [forall_mem_values_cell] at hfloat hminutes
    have hexpected : Value.ofJson? form (c.expected.toJson form) = _ :=
      Value.ofJson?_toJson hfloat.1 hminutes.1
    have hactual : Value.ofJson? form (c.actual.toJson form) = _ :=
      Value.ofJson?_toJson hfloat.2 hminutes.2
    simp only [code, members, Option.bind_eq_bind, Option.bind_some, ofCell?]
    rw [Json.record?_object (by simp) (by simp)]
    simp only [forall_mem_values_cell]
    by_cases hdate : c.expected.ShowsDate
    · by_cases hdate' : c.actual.ShowsDate
      · simp [Json.Record.required_head, Json.Record.required_tail, Json.string?, hrow, hexpected,
          hactual, hdate, hdate', plain]
      · simp [Json.Record.required_head, Json.Record.required_tail, hactual, hdate']
    · simp [Json.Record.required_head, Json.Record.required_tail, hexpected, hdate]

theorem integersOnly_toJson (hfloat : ∀ v ∈ m.values, v.kind ≠ .float) :
    (m.toJson form).IntegersOnly := by
  refine .object fun p hp => ?_
  rcases List.mem_cons.1 hp with rfl | hp
  · exact .string _
  cases m with
  | cell c =>
    obtain ⟨hexpected, hactual⟩ := forall_mem_values_cell.1 hfloat
    simp only [members, List.mem_cons, List.not_mem_nil, or_false] at hp
    rcases hp with rfl | rfl | rfl | rfl | rfl | rfl
    · exact .string _
    · exact Json.integersOnly_ofNat _
    · exact .string _
    · exact Value.integersOnly_toJson hexpected
    · exact Value.integersOnly_toJson hactual
    · exact .string _
  | rowCount t expected actual =>
    simp only [members, List.mem_cons, List.not_mem_nil, or_false] at hp
    rcases hp with rfl | rfl | rfl
    · exact .string _
    · exact Json.integersOnly_ofNat _
    · exact Json.integersOnly_ofNat _
  | missingTable t | unexpectedTable t =>
    rw [List.mem_singleton.1 hp]
    exact .string _
  | missingColumn t c | unexpectedColumn t c =>
    simp only [members, List.mem_cons, List.not_mem_nil, or_false] at hp
    rcases hp with rfl | rfl
    · exact .string _
    · exact .string _

end Mismatch

/-! ## Summaries -/

namespace Summary

variable {s : Summary}

theorem ofJson?_toJson (h : s.WordSized) : ofJson? s.toJson = some s := by
  have htables := Json.nat?_ofNat h.tablesCompared
  have hcompared := Json.nat?_ofNat h.cellsCompared
  have hstructural := Json.nat?_ofNat h.structural
  have hcells := Json.nat?_ofNat h.cells
  rw [ofJson?, toJson, Json.record?_object (by simp) (by simp)]
  simp [Json.Record.required_head, Json.Record.required_tail, htables, hcompared, hstructural,
    hcells]

theorem integersOnly_toJson (s : Summary) : s.toJson.IntegersOnly := by
  refine .object fun p hp => ?_
  simp only [List.mem_cons, List.not_mem_nil, or_false] at hp
  rcases hp with rfl | rfl | rfl | rfl <;> exact Json.integersOnly_ofNat _

end Summary

/-! ## Reports -/

namespace Report

variable {r : Report}

/-- All counts and row numbers are machine words. -/
structure WordSized (r : Report) : Prop where
  summary : r.summary.WordSized
  mismatches : ∀ m ∈ r.mismatches, m.WordSized

/-- The values that the entries are about. -/
def values (r : Report) : List Value := r.mismatches.flatMap Mismatch.values

theorem forall_mem_values {p : Value → Prop} :
    (∀ v ∈ r.values, p v) ↔ ∀ m ∈ r.mismatches, ∀ v ∈ m.values, p v :=
  List.forall_mem_flatMap

/-- The report, values as their text shows them. -/
def plain (r : Report) : Report := { r with mismatches := r.mismatches.map Mismatch.plain }

/-- Two reports are the same, values being compared as such. -/
def Same (r s : Report) : Prop :=
  r.summary = s.summary ∧ List.Forall₂ (fun m m' => m.same m' = true) r.mismatches s.mismatches

theorem plain_same_iff (hfloat : ∀ v ∈ r.values, v.kind ≠ .float) :
    r.plain.Same r ↔ ∀ v ∈ r.values, v.LeapEndsMinute := by
  rw [forall_mem_values] at hfloat ⊢
  rw [Same, plain, List.forall₂_map_left_iff, List.forall₂_same]
  exact (and_iff_right rfl).trans
    (forall₂_congr fun m hm => Mismatch.same_plain_iff (hfloat m hm))

theorem ofJson?_toJson (hword : r.WordSized) (hfloat : ∀ v ∈ r.values, v.kind ≠ .float)
    (hminutes : ∀ v ∈ r.values, v.HasWholeMinutes) :
    ofJson? form (r.toJson form) =
      if ∀ v ∈ r.values, v.ShowsDate then some r.plain else none := by
  rw [forall_mem_values] at hfloat hminutes
  have hsummary := Summary.ofJson?_toJson hword.summary
  have hmismatches : (Json.array (r.mismatches.map (Mismatch.toJson form))).list?
      (Mismatch.ofJson? form) = if ∀ m ∈ r.mismatches, ∀ v ∈ m.values, v.ShowsDate then
        some (r.mismatches.map Mismatch.plain) else none :=
    Json.list?_array_ite fun m hm =>
      Mismatch.ofJson?_toJson (hword.mismatches m hm) (hfloat m hm) (hminutes m hm)
  rw [ofJson?, toJson, Json.record?_object (by simp) (by simp)]
  simp only [forall_mem_values]
  by_cases hdates : ∀ m ∈ r.mismatches, ∀ v ∈ m.values, v.ShowsDate
  · rw [if_pos hdates] at hmismatches ⊢
    simp [Json.Record.required_head, Json.Record.required_tail, hsummary, hmismatches, plain]
  · rw [if_neg hdates] at hmismatches ⊢
    simp [Json.Record.required_head, Json.Record.required_tail, hsummary, hmismatches]

theorem integersOnly_toJson (hfloat : ∀ v ∈ r.values, v.kind ≠ .float) :
    (r.toJson form).IntegersOnly := by
  rw [forall_mem_values] at hfloat
  refine .object fun p hp => ?_
  simp only [List.mem_cons, List.not_mem_nil, or_false] at hp
  rcases hp with rfl | rfl
  · exact r.summary.integersOnly_toJson
  · refine .array fun j hj => ?_
    obtain ⟨m, hm, rfl⟩ := List.mem_map.1 hj
    exact Mismatch.integersOnly_toJson (hfloat m hm)

theorem ofJsonText?_jsonText (hword : r.WordSized) (hfloat : ∀ v ∈ r.values, v.kind ≠ .float)
    (hminutes : ∀ v ∈ r.values, v.HasWholeMinutes) :
    ofJsonText? r.jsonText = if ∀ v ∈ r.values, v.ShowsDate then some r.plain else none := by
  rw [ofJsonText?, jsonText, Json.ofText?_pretty (integersOnly_toJson hfloat), Option.bind_some,
    ofJson?_toJson hword hfloat hminutes]

/-- **The JSON text of a report loses nothing but leap seconds inside minutes.** The report that is
read from it has the same summary and the same entries in their order exactly if leap seconds in the
cells end minutes, and the clocks show dates. -/
theorem jsonText_loses_nothing_iff (r : Report) (hword : r.WordSized)
    (hfloat : ∀ v ∈ r.values, v.kind ≠ .float) (hminutes : ∀ v ∈ r.values, v.HasWholeMinutes) :
    (∃ read, ofJsonText? r.jsonText = some read ∧ read.Same r) ↔
      ∀ v ∈ r.values, v.LeapEndsMinute ∧ v.ShowsDate := by
  rw [ofJsonText?_jsonText hword hfloat hminutes, forall₂_and, ← plain_same_iff hfloat]
  by_cases hdates : ∀ v ∈ r.values, v.ShowsDate
  · rw [if_pos hdates, and_iff_left hdates]
    simp only [Option.some.injEq, exists_eq_left']
  · rw [if_neg hdates]
    constructor
    · rintro ⟨read, hread, -⟩
      cases hread
    · exact fun h => absurd h.2 hdates

/-- A report of one table with a missing row and two differing cells. -/
def stockReport : Report :=
  (((Report.recordTable {} 4).push (.rowCount "käse \"a\"" 2 1)).push
    (.cell ⟨"käse \"a\"", 0, "Größe\n☃", .bytes [0, 255], .null, "VARBINARY"⟩)).push
    (.cell ⟨"käse \"a\"", 0, "price", .decimal .one, .int (-1), "NUMERIC"⟩)

theorem stockReport_loses_nothing :
    ∃ read, ofJsonText? stockReport.jsonText = some read ∧ read.Same stockReport := by
  have hfloat : ∀ v ∈ stockReport.values, v.kind ≠ .float := by decide
  have hminutes : ∀ v ∈ stockReport.values, v.HasWholeMinutes := by decide
  have hread : ∀ v ∈ stockReport.values, v.LeapEndsMinute ∧ v.ShowsDate := by decide
  refine (jsonText_loses_nothing_iff stockReport ⟨by decide, ?_⟩ hfloat hminutes).2 hread
  intro m hm
  simp only [stockReport, push, recordTable, List.nil_append, List.cons_append, List.mem_cons,
    List.not_mem_nil, or_false] at hm
  rcases hm with rfl | rfl | rfl
  · exact ⟨by decide, by decide⟩
  · exact (by decide : IsWord 0)
  · exact (by decide : IsWord 0)

/-- A report of one differing cell, with a value where none is expected. -/
def cellReport (v : Value) : Report := push {} (.cell ⟨"stock", 0, "closed", .null, v, "UNKNOWN"⟩)

theorem wordSized_cellReport (v : Value) : (cellReport v).WordSized := by
  have hzero : IsWord 0 := by decide
  have hone : IsWord 1 := by decide
  refine ⟨⟨hzero, hzero, hzero, hone⟩, fun m hm => ?_⟩
  rw [List.mem_singleton.1 hm]
  exact hzero

/-- The cell is in the leap second after `23:56:04`. -/
def leapReport : Report := cellReport (.time Value.leapAfterFour)

/-- The cell is the last instant there is, on a clock that is an hour ahead. -/
def lateReport : Report :=
  cellReport (.zoned ⟨⟨⟨262142, 12, 31, by decide⟩, ⟨86399, 999999999, Value.lastSecond_lt,
    by decide⟩⟩, 3600, by decide⟩)

/-- The leap second is read as the second after it, and the last instant is not read at all. -/
theorem leap_and_late_not_read_back :
    (¬ ∃ read, ofJsonText? leapReport.jsonText = some read ∧ read.Same leapReport) ∧
      ofJsonText? lateReport.jsonText = none := by
  have hleap : leapReport.WordSized := wordSized_cellReport _
  have hlate : lateReport.WordSized := wordSized_cellReport _
  constructor
  · have hfloat : ∀ v ∈ leapReport.values, v.kind ≠ .float := by decide
    have hdates : ∀ v ∈ leapReport.values, v.ShowsDate := by decide
    have hinside : ¬ ∀ v ∈ leapReport.values, v.LeapEndsMinute := by decide
    rintro ⟨read, hread, hsame⟩
    rw [ofJsonText?_jsonText hleap hfloat (by decide), if_pos hdates] at hread
    cases hread
    exact hinside ((plain_same_iff hfloat).1 hsame)
  · have hbeyond : ¬ ∀ v ∈ lateReport.values, v.ShowsDate := by decide
    rw [ofJsonText?_jsonText hlate (by decide) (by decide), if_neg hbeyond]

end Report

end TableDiff
