import TableDiff.Proofs.Report.Summary

/-!
# Reports whose counts are machine words

An operation on machine words is the exact operation with what is then kept of its counts. Nothing
changes if the counts were kept before as well (`kept?_bind_kept?`), as counts only grow and
wrapping around goes with addition. Pushing an entry and counting a table are merges with a report
of their own, so that it is enough to see this for merging on either side; and so merging step by
step is merging at once (`merge?_eq`).
-/

namespace TableDiff.Report

open TableDiff.Numeric

variable {r s : Report} {overflow : Overflow}

/-! ## What is kept of a report -/

theorem wrapped_of_wordSized (h : r.summary.WordSized) : r.wrapped = r := by
  ext1
  · ext1
    · exact wrapNat64_of_isWord h.tablesCompared
    · exact wrapNat64_of_isWord h.cellsCompared
    · exact wrapNat64_of_isWord h.structural
    · exact wrapNat64_of_isWord h.cells
  · rfl

theorem kept?_of_wordSized (h : r.summary.WordSized) : r.kept? overflow = some r := if_pos h

theorem kept?_wraps (r : Report) : r.kept? .wraps = some r.wrapped := by
  by_cases h : r.summary.WordSized
  · rw [kept?_of_wordSized h, wrapped_of_wordSized h]
  · exact if_neg h

theorem kept?_stops_eq_some_iff : r.kept? .stops = some s ↔ r.summary.WordSized ∧ r = s := by
  by_cases h : r.summary.WordSized
  · simp only [kept?_of_wordSized h, Option.some.injEq, h, true_and]
  · simp only [kept?, h, if_false, reduceCtorEq, false_and]

/-- **Counts may be kept before an operation or not.** The operation must not turn counts that fit
no words into counts that do, and it must go with wrapping around. -/
theorem kept?_bind_kept? {f : Report → Report} (hwrapped : (f r.wrapped).wrapped = (f r).wrapped)
    (hgrows : (f r).summary.WordSized → r.summary.WordSized) :
    ((r.kept? overflow).bind fun r' => (f r').kept? overflow) = (f r).kept? overflow := by
  by_cases h : r.summary.WordSized
  · rw [kept?_of_wordSized h, Option.bind_some]
  · have hf : ¬ (f r).summary.WordSized := fun hf => h (hgrows hf)
    cases overflow with
    | stops => simp only [kept?, h, hf, if_false, Option.bind_none]
    | wraps => rw [kept?_wraps, Option.bind_some, kept?_wraps, kept?_wraps, hwrapped]

/-! ## Merging -/

theorem wrapped_merge_left (r s : Report) : (r.wrapped.merge s).wrapped = (r.merge s).wrapped := by
  simp only [merge_eq, wrapped, Summary.wrapped, wrapNat64_add_left]

theorem wrapped_merge_right (r s : Report) : (r.merge s.wrapped).wrapped = (r.merge s).wrapped := by
  simp only [merge_eq, wrapped, Summary.wrapped, wrapNat64_add_right]

theorem wordSized_of_merge_left (h : (r.merge s).summary.WordSized) : r.summary.WordSized := by
  rw [merge_eq] at h
  exact ⟨Nat.lt_of_le_of_lt (Nat.le_add_right ..) h.tablesCompared,
    Nat.lt_of_le_of_lt (Nat.le_add_right ..) h.cellsCompared,
    Nat.lt_of_le_of_lt (Nat.le_add_right ..) h.structural,
    Nat.lt_of_le_of_lt (Nat.le_add_right ..) h.cells⟩

/-- The other report must count its entries, as they are counted anew. -/
theorem wordSized_of_merge_right (hs : s.CountsEntries) (h : (r.merge s).summary.WordSized) :
    s.summary.WordSized := by
  rw [merge_eq] at h
  exact ⟨Nat.lt_of_le_of_lt (Nat.le_add_left ..) h.tablesCompared,
    Nat.lt_of_le_of_lt (Nat.le_add_left ..) h.cellsCompared,
    hs.structural ▸ Nat.lt_of_le_of_lt (Nat.le_add_left ..) h.structural,
    hs.cells ▸ Nat.lt_of_le_of_lt (Nat.le_add_left ..) h.cells⟩

theorem kept?_bind_merge (r s : Report) :
    ((r.kept? overflow).bind fun r' => (r'.merge s).kept? overflow) = (r.merge s).kept? overflow :=
  kept?_bind_kept? (f := (merge · s)) (wrapped_merge_left r s) wordSized_of_merge_left

theorem kept?_bind_push? (r : Report) (m : Mismatch) :
    ((r.kept? overflow).bind (·.push? overflow m)) = (r.push m).kept? overflow := by
  simpa only [push?, merge_push_empty] using kept?_bind_merge r (push {} m)

theorem kept?_bind_recordTable? (r : Report) (cells : Nat) :
    ((r.kept? overflow).bind (·.recordTable? overflow cells)) =
      (r.recordTable cells).kept? overflow := by
  simpa only [recordTable?, merge_recordTable_empty] using kept?_bind_merge r (recordTable {} cells)

theorem foldlM_push? (r : Report) (ms : List Mismatch) :
    ((r.kept? overflow).bind fun r' => ms.foldlM (push? overflow) r') =
      (r.pushAll ms).kept? overflow := by
  induction ms generalizing r with
  | nil => exact Option.bind_fun_some _
  | cons m ms ih =>
    simp only [List.foldlM_cons, Option.bind_eq_bind, ← Option.bind_assoc]
    rw [kept?_bind_push?, ih]
    rfl

/-- **Merging step by step is merging at once.** -/
theorem merge?_eq (r s : Report) : r.merge? overflow s = (r.merge s).kept? overflow :=
  foldlM_push? (r.addCompared s.summary) s.mismatches

theorem kept?_bind_merge? (r : Report) (hs : s.CountsEntries) :
    ((r.kept? overflow).bind fun r' => (s.kept? overflow).bind (r'.merge? overflow)) =
      (r.merge s).kept? overflow := by
  have hright (r' : Report) :
      (s.kept? overflow).bind (r'.merge? overflow) = (r'.merge s).kept? overflow := by
    rw [funext (merge?_eq r')]
    exact kept?_bind_kept? (wrapped_merge_right r' s) (wordSized_of_merge_right hs)
  simp only [hright, kept?_bind_merge]

end TableDiff.Report
