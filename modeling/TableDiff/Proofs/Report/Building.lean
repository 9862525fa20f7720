import TableDiff.Proofs.Report.Words

/-!
# Reports that are built by operations

A report that was built from the empty one by pushing entries, counting tables and merging other
such reports, in whatever nesting (`Building`), is determined by what was pushed and counted on the
way (`report_eq`). On machine words, what is built is this report with what is kept of its counts
(`run?_eq`). So its counts never drift from its entries, and merging is associative with the empty
report as identity (`report_counts_and_merges`).

Merging counts the entries of the other report anew but takes its other counts as they are. So the
empty report is an identity on the left exactly for the reports that count their own entries
(`empty_merge_eq_iff`), as all that are built do.
-/

namespace TableDiff

theorem Mismatch.isStructural_iff {m : Mismatch} :
    m.isStructural = true ↔ ∀ c, m ≠ .cell c := by
  cases m <;> simp [isStructural, MismatchCode.isStructural, code]

theorem Mismatch.cell?_eq_some_iff {m : Mismatch} {c : CellMismatch} :
    m.cell? = some c ↔ m = .cell c := by
  cases m <;> simp [cell?]

namespace Report

variable {r s t : Report}

/-! ## Entries of either sort -/

/-- The differing cells of a list, as entries, are the entries that are not structural. -/
theorem map_cell_filterMap (ms : List Mismatch) :
    (ms.filterMap Mismatch.cell?).map .cell = ms.filter fun m => !m.isStructural := by
  induction ms with
  | nil => rfl
  | cons m ms ih =>
    cases hcell : m.cell? with
    | none =>
      have hm : m.isStructural = true := by
        rw [Mismatch.isStructural_iff]
        rintro c rfl
        cases hcell
      rw [List.filterMap_cons_none hcell, ih, List.filter_cons_of_neg (by simp [hm])]
    | some c =>
      obtain rfl := Mismatch.cell?_eq_some_iff.1 hcell
      rw [List.filterMap_cons_some hcell, List.map_cons, ih, List.filter_cons_of_pos rfl]

/-- The structural entries and the differing cells are the entries, each part in their order. -/
theorem partition_mismatches (r : Report) : r.mismatches.partition (·.isStructural) =
    (r.structuralMismatches, r.cellMismatches.map .cell) := by
  rw [List.partition_eq_filter_filter, cellMismatches, map_cell_filterMap]
  rfl

theorem length_structuralMismatches (r : Report) :
    r.structuralMismatches.length = structuralCount r.mismatches :=
  List.countP_eq_length_filter.symm

theorem length_cellMismatches (r : Report) :
    r.cellMismatches.length = cellCount r.mismatches := by
  rw [← List.length_map Mismatch.cell, cellMismatches, map_cell_filterMap, cellCount,
    List.countP_eq_length_filter]

theorem structuralCount_add_cellCount (ms : List Mismatch) :
    structuralCount ms + cellCount ms = ms.length := by
  rw [List.length_eq_countP_add_countP (·.isStructural), structuralCount, cellCount]
  simp only [Bool.not_eq_true, Bool.decide_eq_false]

/-! ## Merging -/

theorem merge_assoc (r s t : Report) : (r.merge s).merge t = r.merge (s.merge t) := by
  simp only [merge_eq, structuralCount_append, cellCount_append, Nat.add_assoc, List.append_assoc]

theorem merge_empty (r : Report) : r.merge {} = r := by
  simp [merge_eq, structuralCount, cellCount]

theorem empty_merge_eq_iff : merge {} r = r ↔ r.CountsEntries := by
  obtain ⟨⟨tables, compared, structural, cells⟩, ms⟩ := r
  simp only [merge_eq, Report.mk.injEq, Summary.mk.injEq, Nat.zero_add, List.nil_append, true_and,
    and_true]
  constructor
  · rintro ⟨hs, hc⟩
    exact ⟨hs.symm, hc.symm⟩
  · rintro ⟨hs, hc⟩
    exact ⟨hs.symm, hc.symm⟩

/-- A report whose summary counts an entry that it does not list is changed. -/
example : merge {} ⟨{ structural := 1 }, []⟩ ≠ ⟨{ structural := 1 }, []⟩ := by decide

/-! ## Operations -/

/-- How a report is built from the empty one. -/
inductive Building where
  | empty
  | push (b : Building) (m : Mismatch)
  | recordTable (b : Building) (cells : Nat)
  | merge (b other : Building)

namespace Building

/-- The report that is built. -/
def report : Building → Report
  | empty => {}
  | push b m => b.report.push m
  | recordTable b cells => b.report.recordTable cells
  | merge b other => b.report.merge other.report

/-- The entries that are pushed, in the order of the operations. -/
def pushed : Building → List Mismatch
  | empty => []
  | push b m => b.pushed ++ [m]
  | recordTable b _ => b.pushed
  | merge b other => b.pushed ++ other.pushed

/-- The numbers of cells of the tables that are counted, in the order of the operations. -/
def recorded : Building → List Nat
  | empty => []
  | push b _ => b.recorded
  | recordTable b cells => b.recorded ++ [cells]
  | merge b other => b.recorded ++ other.recorded

/-- The summary of what is pushed and counted on the way. -/
def summary (b : Building) : Summary where
  tablesCompared := b.recorded.length
  cellsCompared := b.recorded.sum
  structural := structuralCount b.pushed
  cells := cellCount b.pushed

/-- What is pushed and counted on the way determines the report. -/
theorem report_eq (b : Building) : b.report = ⟨b.summary, b.pushed⟩ := by
  induction b with
  | empty => rfl
  | push b m ih =>
    show b.report.pushAll [m] = _
    rw [ih, pushAll_eq]
    simp only [summary, recorded, pushed, structuralCount_append, cellCount_append]
  | recordTable b cells ih =>
    rw [report, ih]
    simp only [Report.recordTable, summary, recorded, pushed, List.length_append,
      List.length_singleton, List.sum_append, List.sum_singleton]
  | merge b other ihb ihother =>
    rw [report, ihb, ihother, merge_eq]
    simp only [summary, recorded, pushed, structuralCount_append, cellCount_append,
      List.length_append, List.sum_append]

theorem summary_report (b : Building) : b.report.summary = b.summary := by
  rw [report_eq]

theorem mismatches_report (b : Building) : b.report.mismatches = b.pushed := by
  rw [report_eq]

theorem countsEntries (b : Building) : b.report.CountsEntries := by
  rw [report_eq]
  exact ⟨rfl, rfl⟩

/-- The report that is built on machine words, if the program goes on to its end. -/
def run? (overflow : Overflow) : Building → Option Report
  | empty => some {}
  | push b m => (b.run? overflow).bind (·.push? overflow m)
  | recordTable b cells => (b.run? overflow).bind (·.recordTable? overflow cells)
  | merge b other =>
    (b.run? overflow).bind fun r => (other.run? overflow).bind (r.merge? overflow)

/-- It is no matter at which operations the counts are kept. -/
theorem run?_eq (overflow : Overflow) (b : Building) :
    b.run? overflow = b.report.kept? overflow := by
  induction b with
  | empty => rfl
  | push b m ih => rw [run?, ih, kept?_bind_push?, report]
  | recordTable b cells ih => rw [run?, ih, kept?_bind_recordTable?, report]
  | merge b other ihb ihother =>
    rw [run?, ihb, ihother, kept?_bind_merge? b.report other.countsEntries, report]

/-- What a report has to say about the operations that it is built by. -/
structure Describes (b : Building) (r : Report) : Prop where
  mismatches : r.mismatches = b.pushed
  structural : r.summary.structural = r.structuralMismatches.length
  cells : r.summary.cells = r.cellMismatches.length
  total : r.summary.structural + r.summary.cells = r.mismatches.length
  partition : r.mismatches.partition (·.isStructural) =
    (r.structuralMismatches, r.cellMismatches.map .cell)
  aboutNoCell : ∀ m ∈ r.structuralMismatches, ∀ c, m ≠ .cell c
  tablesCompared : r.summary.tablesCompared = b.recorded.length
  cellsCompared : r.summary.cellsCompared = b.recorded.sum

theorem describes_report (b : Building) : b.Describes b.report where
  mismatches := b.mismatches_report
  structural := by rw [length_structuralMismatches, b.countsEntries.structural]
  cells := by rw [length_cellMismatches, b.countsEntries.cells]
  total := by
    rw [b.countsEntries.structural, b.countsEntries.cells, structuralCount_add_cellCount]
  partition := partition_mismatches _
  aboutNoCell _ hm := Mismatch.isStructural_iff.1 (List.mem_filter.1 hm).2
  tablesCompared := by rw [b.summary_report, summary]
  cellsCompared := by rw [b.summary_report, summary]

theorem run?_of_wordSized {b : Building} (overflow : Overflow) (h : b.summary.WordSized) :
    b.run? overflow = some b.report := by
  rw [run?_eq, kept?_of_wordSized]
  rwa [summary_report]

end Building

/-- **Summaries never drift from the entries, and reports form a monoid.** A report that is built by
pushing, counting and merging lists what was pushed in the order of the operations; it counts its
structural entries and its differing cells, which together are its entries, and it counts the tables
and sums the cells that were recorded anywhere on the way. So it is for every report of a program
that stops when a count fits no machine word, and for one that wraps around as long as the counts
fit; otherwise they are what is left of them in a word. Merging is associative, and the empty report
is its identity on both sides. -/
theorem report_counts_and_merges :
    (∀ (b : Building) (r : Report), b.run? .stops = some r → b.Describes r) ∧
    (∀ (b : Building) (overflow : Overflow), b.summary.WordSized →
      ∃ r, b.run? overflow = some r ∧ b.Describes r) ∧
    (∀ b : Building, ∃ r, b.run? .wraps = some r ∧
      r.mismatches = b.pushed ∧ r.summary = b.summary.wrapped) ∧
    (∀ (a b c : Building) (overflow : Overflow),
      ((a.merge b).merge c).run? overflow = (a.merge (b.merge c)).run? overflow) ∧
    (∀ (b : Building) (overflow : Overflow),
      (Building.empty.merge b).run? overflow = b.run? overflow ∧
      (b.merge .empty).run? overflow = b.run? overflow) ∧
    ∀ r s t : Report, (r.merge s).merge t = r.merge (s.merge t) := by
  refine ⟨fun b r h => ?_, fun b overflow h => ?_, fun b => ?_, fun a b c overflow => ?_,
    fun b overflow => ⟨?_, ?_⟩, merge_assoc⟩
  · rw [b.run?_eq, kept?_stops_eq_some_iff] at h
    exact h.2 ▸ b.describes_report
  · exact ⟨b.report, b.run?_of_wordSized overflow h, b.describes_report⟩
  · refine ⟨b.report.wrapped, by rw [b.run?_eq, kept?_wraps], b.mismatches_report, ?_⟩
    rw [wrapped, b.summary_report]
  · simp only [Building.run?_eq, Building.report, merge_assoc]
  · simp only [Building.run?_eq, Building.report, empty_merge_eq_iff.2 b.countsEntries]
  · simp only [Building.run?_eq, Building.report, merge_empty]

/-- Two tables that are compared one after the other, the first one with a row too few. -/
def twoTables : Building :=
  .merge (.push (.recordTable .empty 4) (.rowCount "stock" 2 1)) (.recordTable .empty 6)

theorem twoTables_counted : twoTables.summary.WordSized ∧
    ∃ r, twoTables.run? .stops = some r ∧ twoTables.Describes r := by
  have hword : twoTables.summary.WordSized := by decide
  exact ⟨hword, report_counts_and_merges.2.1 twoTables .stops hword⟩

/-- Two tables with more cells than a word counts. -/
example :
    let huge : Building := .recordTable (.recordTable .empty 18446744073709551615) 1
    huge.run? .stops = none ∧
      huge.run? .wraps = some ⟨{ tablesCompared := 2, cellsCompared := 0 }, []⟩ := by decide

end Report

end TableDiff
