import TableDiff.Proofs.Comparison.SortedViews

/-!
# Which keys can be sorted by

Sorting by key brings the agreeing rows of two tables together where the cells of exactly numeric
key columns are canonical (`SortsAlike`). This is the exact condition: with any other value in such
a cell, unless it is no number at all, there are tables of two rows that agree only crosswise
(`sortsAlike_iff`), since the value's key stands on the wrong side of another key.
-/

namespace TableDiff

open TableDiff.Numeric TableDiff.Table

/-- Sorting by key brings the rows of two tables together that agree in some order of rows, if the
values in exactly numeric key columns are of some sort. -/
def SortsAlike (admits : Value → Prop) : Prop :=
  ∀ (c : Comparer) (expected shuffled actual sortedExpected sortedActual : Table),
    c.mode = .nonStrict → TellsApart c expected actual → Reordered expected shuffled →
    c.Passes shuffled actual → KeyCells admits actual.metadata.primaryKeyColumns expected →
    KeyCells admits actual.metadata.primaryKeyColumns actual →
    expected.sortedByColumns actual.metadata.primaryKeyColumns = .ok sortedExpected →
    actual.sorted = .ok sortedActual → c.Passes sortedExpected sortedActual

/-! ## Tables of two rows -/

/-- A numeric key column. -/
def keyColumn : Column := { name := "k", type := .plain .numeric }

/-- A table of two rows with a key in its only column. -/
def keyTable (x y : Value) : Table where
  metadata := { name := "t", columns := [keyColumn], primaryKey := ["k"] }
  rows := [[x], [y]]
  width_eq := by simp

/-- A comparison without tolerances. -/
def plainComparer : Comparer := { registry := {} }

theorem participants_keyTable (x y : Value) :
    participants {} (keyTable x y) = [(keyColumn, 0)] := rfl

theorem counterpart?_keyTable (x y : Value) :
    counterpart? (keyTable x y) "k" = some (keyColumn, 0) := rfl

theorem primaryKeyColumns_keyTable (x y : Value) :
    (keyTable x y).metadata.primaryKeyColumns = [keyColumn] := rfl

theorem rowsAgree_keyTable {e₁ e₂ a₁ a₂ e a : Value} :
    RowsAgree plainComparer.registry (keyTable e₁ e₂) (keyTable a₁ a₂) [e] [a] ↔
      LogicalType.agree (.plain .numeric) e a = .ok true := by
  unfold RowsAgree
  rw [participants_keyTable, List.forall_mem_singleton]
  constructor
  · intro h
    exact h keyColumn 0 (counterpart?_keyTable a₁ a₂)
  · intro h found index hf
    cases (counterpart?_keyTable a₁ a₂).symm.trans hf
    exact h

theorem passes_keyTable_iff {e₁ e₂ a₁ a₂ : Value} :
    plainComparer.Passes (keyTable e₁ e₂) (keyTable a₁ a₂) ↔
      LogicalType.agree (.plain .numeric) e₁ a₁ = .ok true ∧
        LogicalType.agree (.plain .numeric) e₂ a₂ = .ok true := by
  have hfound : ∀ p ∈ participants {} (keyTable e₁ e₂),
      (counterpart? (keyTable a₁ a₂) p.1.name).isSome = true := by
    rw [participants_keyTable, List.forall_mem_singleton]
    rfl
  rw [Comparer.passes_iff rfl]
  show _ ∧ List.Forall₂ _ [[e₁], [e₂]] [[a₁], [a₂]] ↔ _
  rw [List.forall₂_cons, List.forall₂_cons, rowsAgree_keyTable, rowsAgree_keyTable]
  exact ⟨fun h => ⟨h.2.1, h.2.2.1⟩, fun h => ⟨hfound, h.1, h.2, .nil⟩⟩

theorem tellsApart_keyTable {e₁ e₂ a₁ a₂ : Value}
    (h : LogicalType.agree (.plain .numeric) a₁ a₂ ≠ .ok true) :
    TellsApart plainComparer (keyTable e₁ e₂) (keyTable a₁ a₂) where
  hasKey := rfl
  found := by
    show ∀ name ∈ ["k"], _
    rw [List.forall_mem_singleton]
    rfl
  typed := by
    rw [primaryKeyColumns_keyTable, List.forall_mem_singleton]
    exact ⟨.numeric, rfl, by decide⟩
  untolerated := by
    rw [primaryKeyColumns_keyTable, List.forall_mem_singleton]
    rfl
  distinct := by
    refine List.pairwise_pair.2 fun hagree => h ?_
    exact hagree keyColumn (List.mem_singleton.2 rfl)

theorem keyCells_keyTable {admits : Value → Prop} {x y : Value} (hx : admits x) (hy : admits y) :
    KeyCells admits [keyColumn] (keyTable x y) := by
  unfold KeyCells
  rw [List.forall_mem_singleton]
  intro _ row hrow
  rcases List.mem_pair.1 hrow with rfl | rfl
  · exact hx
  · exact hy

/-- Two rows whose keys are in order stay as they are. -/
theorem sortedByColumns_keyTable {x y v w : Value} (hx : DataType.numeric.normalize x = .ok v)
    (hy : DataType.numeric.normalize y = .ok w) (h : (v.compare w).isLE = true) :
    (keyTable x y).sortedByColumns [keyColumn] = .ok (keyTable x y) := by
  have hrow : ∀ {u z}, DataType.numeric.normalize u = .ok z →
      HasKey (keyTable x y).metadata [keyColumn] [u] ∧
        rowKey (keyTable x y).metadata [keyColumn] [u] = [z] := by
    intro u z hu
    refine ⟨List.forall_mem_singleton.2 ⟨z, hu⟩, ?_⟩
    show [(DataType.numeric.normalize u).toOption.getD .null] = [z]
    rw [hu]
    rfl
  have horder : byKey (keyTable x y).metadata [keyColumn] [x] [y] = true := by
    rw [byKey, (hrow hx).2, (hrow hy).2]
    show ((v.compare w).then .eq).isLE = true
    rw [Ordering.then_eq]
    exact h
  refine sortedByColumns_of_pairwise ?_ ?_ (List.pairwise_pair.2 horder)
  · rw [List.forall_mem_singleton]
    rfl
  · intro row hrows
    rcases List.mem_pair.1 hrows with rfl | rfl
    · exact (hrow hx).1
    · exact (hrow hy).1

/-! ## Values that are not canonical -/

/-- A value has a number and a comparable form. -/
structure Value.HasForm (v : Value) (n : ExactDecimal) (x : Value) : Prop where
  number : v.toExact? = some n
  form : v.comparableNumber = .ok x

theorem Value.hasForm_decimal (d : Decimal) : (decimal d).HasForm (.ofDecimal d) (decimal d) :=
  ⟨rfl, rfl⟩

theorem Value.HasForm.normalize {v x : Value} {n : ExactDecimal} (h : v.HasForm n x) :
    DataType.numeric.normalize v = .ok x :=
  DataType.normalize_of_comparable rfl (LogicalType.isNull_of_toExact? h.number) h.form

theorem Value.HasForm.agree_iff {u v x y : Value} {n m : ExactDecimal} (hu : u.HasForm n x)
    (hv : v.HasForm m y) :
    LogicalType.agree (.plain .numeric) u v = .ok true ↔ n.toRat = m.toRat :=
  DataType.agree_iff_of_numbers rfl hu.number hv.number

/-- Where another value comes between two values of one number, the rows of these two are not
brought together. -/
theorem not_sortsAlike {admits : Value → Prop} {u a w x y z : Value} {n m l : ExactDecimal}
    (hu : admits u) (ha : admits a) (hw : admits w) (hun : u.HasForm n x) (ham : a.HasForm m y)
    (hwl : w.HasForm l z) (hsame : n.toRat = m.toRat) (hother : l.toRat ≠ m.toRat)
    (hyz : (y.compare z).isLE = true) (hzx : (z.compare x).isLE = true) :
    ¬ SortsAlike admits := by
  intro h
  have hapart : LogicalType.agree (.plain .numeric) a w ≠ .ok true := fun hagree =>
    hother ((ham.agree_iff hwl).1 hagree).symm
  have hcrosswise : plainComparer.Passes (keyTable u w) (keyTable a w) :=
    passes_keyTable_iff.2 ⟨(hun.agree_iff ham).2 hsame, (hwl.agree_iff hwl).2 rfl⟩
  have hpass := h plainComparer (keyTable w u) (keyTable u w) (keyTable a w) _ _ rfl
    (tellsApart_keyTable hapart) ⟨rfl, List.Perm.swap _ _ _⟩ hcrosswise
    (keyCells_keyTable hw hu) (keyCells_keyTable ha hw)
    (sortedByColumns_keyTable hwl.normalize hun.normalize hzx)
    (sortedByColumns_keyTable ham.normalize hwl.normalize hyz)
  exact hother ((hwl.agree_iff ham).1 (passes_keyTable_iff.1 hpass).1)

/-- The comparable form of a value that is not canonical is a wrong decimal or a needless text. -/
theorem Value.hasForm_of_not_canonical {u : Value} {n : ExactDecimal} (hn : u.toExact? = some n)
    (h : ¬ u.Canonical) :
    (∃ d, u.HasForm n (.decimal d) ∧ d.toRat ≠ n.toRat) ∨
      (u.HasForm n (.written n) ∧ ∃ d : Decimal, d.toRat = n.toRat) := by
  unfold Value.Canonical at h
  push Not at h
  obtain ⟨w, hw, h⟩ := h
  obtain ⟨hdecimal, hwritten⟩ := h n hn
  rcases Value.comparableNumber_eq_ok.1 hw with ⟨d, -, rfl⟩ | ⟨-, m, -, hm, rfl⟩
  · exact .inl ⟨d, ⟨hn, hw⟩, hdecimal d rfl⟩
  · rw [hn] at hm
    cases hm
    exact .inr ⟨⟨hn, hw⟩, hwritten rfl⟩

/-- A number beyond all decimals. -/
def beyondDecimals : ExactDecimal := ⟨1000000000000000000000000000000, 0⟩

theorem toRat_ne_beyondDecimals (d : Decimal) : d.toRat ≠ beyondDecimals.toRat := by
  have hlt : Decimal.largest.toRat < beyondDecimals.toRat := by decide +kernel
  exact (d.toRat_le_largest.trans_lt hlt).ne

/-- A value of the number beyond all decimals. -/
def beyond : Value := .text "1000000000000000000000000000000"

theorem hasForm_beyond : beyond.HasForm beyondDecimals (.written beyondDecimals) where
  number := by decide +kernel
  form := by decide +kernel

theorem canonical_beyond : beyond.Canonical := by
  intro w hw
  rw [hasForm_beyond.form] at hw
  cases hw
  exact ⟨_, hasForm_beyond.number, .inr ⟨rfl, toRat_ne_beyondDecimals⟩⟩

/-- No value that is not canonical can be admitted besides the canonical ones. -/
theorem not_sortsAlike_of_not_canonical {admits : Value → Prop}
    (hcanonical : ∀ v, v.Canonical → admits v) {u : Value} {n : ExactDecimal} (hu : admits u)
    (hn : u.toExact? = some n) (h : ¬ u.Canonical) : ¬ SortsAlike admits := by
  have hdecimal := fun d => hcanonical _ (Value.canonical_decimal d)
  rcases Value.hasForm_of_not_canonical hn h with ⟨d, hform, hne⟩ | ⟨hform, a, ha⟩
  · -- the decimal has the same key as the value
    have hle : ((Value.decimal d).compare (.decimal d)).isLE = true := by
      rw [(Value.compare_decimal d d).2 rfl]
      rfl
    exact not_sortsAlike hu hu (hdecimal d) hform hform (Value.hasForm_decimal d) rfl hne hle hle
  · -- a larger number comes between the decimal and the text
    by_cases hlargest : a.toRat = Decimal.largest.toRat
    · have hnormal : n.normalize = (ExactDecimal.ofDecimal .largest).normalize :=
        ExactDecimal.normalize_eq_iff.2 (ha.symm.trans hlargest)
      rw [Value.written, hnormal] at hform
      refine not_sortsAlike hu (hdecimal a) (hcanonical _ canonical_beyond) hform
        (Value.hasForm_decimal a) hasForm_beyond ha.symm (toRat_ne_beyondDecimals a).symm rfl ?_
      decide +kernel
    · have hlt : a.toRat < Decimal.largest.toRat := lt_of_le_of_ne a.toRat_le_largest hlargest
      refine not_sortsAlike hu (hdecimal a) (hdecimal .largest) hform (Value.hasForm_decimal a)
        (Value.hasForm_decimal .largest) ha.symm (Ne.symm hlargest) ?_ rfl
      show (a.compare .largest).isLE = true
      rw [Decimal.compare_eq_cmp, (cmp_eq_lt_iff _ _).2 hlt]
      rfl

/-- **Which cells sorting takes**: canonical ones, and none besides that has a number. -/
theorem sortsAlike_iff (admits : Value → Prop) :
    SortsAlike (fun v => v.Canonical ∨ admits v) ↔
      ∀ v n, admits v → v.toExact? = some n → v.Canonical := by
  constructor
  · intro h v n hv hn
    by_contra hcan
    exact not_sortsAlike_of_not_canonical (fun _ hc => Or.inl hc) (Or.inr hv) hn hcan h
  · intro h c expected shuffled actual sortedExpected sortedActual hmode ht hshuffled hpass he ha
      hes has
    have hnumbers : ∀ v : Value, v.Canonical ∨ admits v → ∀ n, v.toExact? = some n → v.Canonical :=
      fun v hv n hn => hv.elim id fun hv => h v n hv hn
    exact passes_sorted hmode ht hshuffled hpass
      (fun k hk hf row hrow => hnumbers _ (he k hk hf row hrow))
      (fun k hk hf row hrow => hnumbers _ (ha k hk hf row hrow)) hes has

/-- The number one with more digits than a decimal holds, which is written as a key. -/
def longOne : Value := .text "1.00000000000000000000000000000"

theorem longOne_sorts_apart : ¬ SortsAlike fun v => v.Canonical ∨ v = longOne := by
  intro h
  have hn : longOne.toExact? = some ⟨100000000000000000000000000000, 29⟩ := by decide +kernel
  have hcanonical := (sortsAlike_iff (· = longOne)).1 h longOne _ rfl hn
  have hfails : longOne.toDecimal = .error .notANumber := by decide +kernel
  refine (Value.canonical_iff_readings.1 hcanonical).2 _ _ hfails hn .one ?_
  decide +kernel

/-- With many digits in the key, one comes after two. -/
theorem longOne_fails_sorted :
    TellsApart plainComparer (keyTable (.text "2") longOne) (keyTable (.int 1) (.int 2)) ∧
      Reordered (keyTable (.text "2") longOne) (keyTable longOne (.text "2")) ∧
      plainComparer.Passes (keyTable longOne (.text "2")) (keyTable (.int 1) (.int 2)) ∧
      (keyTable (.text "2") longOne).sortedByColumns
          (keyTable (.int 1) (.int 2)).metadata.primaryKeyColumns =
        .ok (keyTable (.text "2") longOne) ∧
      (keyTable (.int 1) (.int 2)).sorted = .ok (keyTable (.int 1) (.int 2)) ∧
      ¬ plainComparer.Passes (keyTable (.text "2") longOne) (keyTable (.int 1) (.int 2)) := by
  have htwo : DataType.numeric.normalize (.text "2") = .ok (.decimal (.ofInt64 2)) := by
    decide +kernel
  have hlong : DataType.numeric.normalize longOne = .ok (.text "1") := by decide +kernel
  refine ⟨tellsApart_keyTable (by decide +kernel), ⟨rfl, List.Perm.swap _ _ _⟩,
    passes_keyTable_iff.2 ⟨by decide +kernel, by decide +kernel⟩,
    sortedByColumns_keyTable htwo hlong rfl, ?_, fun h => ?_⟩
  · exact sortedByColumns_keyTable (v := .decimal (.ofInt64 1)) (w := .decimal (.ofInt64 2))
      rfl rfl rfl
  · exact absurd (passes_keyTable_iff.1 h).1 (by decide +kernel)

end TableDiff
