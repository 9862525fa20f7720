import TableDiff.Proofs.Numeric.ExactValue
import TableDiff.Proofs.Text.Blank
import TableDiff.Registry

/-!
# Registered tolerances

A rule is refused for a blank column name or else for a negative difference
(`fault?_eq_some_iff`, `fault?_eq_none_iff`). Every rule of a table of tolerances that was filled
rule by rule (`ToleranceTable.Registered`) has passed this check, so no tolerated difference is
negative (`delta?_nonneg`).

The first rule for a column is found for the tables that it covers, and changes nothing for any
other column or table (`delta?_add_of_new`).
-/

namespace TableDiff

open TableDiff.Numeric TableDiff.Text

namespace ToleranceRule

/-- Whether a rule is for a column of a table. -/
def covers (rule : ToleranceRule) (table column : String) : Bool :=
  rule.isForColumn column && (rule.isForAnyTable || sameName rule.table table)

/-- The name of the column is empty or made of blanks. -/
def HasBlankColumn (rule : ToleranceRule) : Prop := ∀ c ∈ rule.column.toList, isBlank c = true

instance (rule : ToleranceRule) : Decidable rule.HasBlankColumn :=
  List.decidableBAll (isBlank · = true) rule.column.toList

/-- Why a rule is refused. A blank column name comes before a negative difference. -/
inductive Refused (rule : ToleranceRule) : ConfigurationError → Prop
  | emptyColumn (hblank : rule.HasBlankColumn) : Refused rule (.emptyColumn rule.table)
  | negativeDelta (hcolumn : ¬ rule.HasBlankColumn) (hnegative : rule.delta.toRat < 0) :
      Refused rule (.negativeDelta rule.table rule.column rule.delta)

/-- A rule that can be registered. -/
structure Accepted (rule : ToleranceRule) : Prop where
  column : ¬ rule.HasBlankColumn
  delta : 0 ≤ rule.delta.toRat

variable {rule : ToleranceRule}

theorem toRat_delta_neg_iff : rule.delta.toRat < 0 ↔ rule.delta.unscaled < 0 :=
  ExactDecimal.toRat_neg_iff

theorem fault?_eq_some_iff {e : ConfigurationError} : rule.fault? = some e ↔ rule.Refused e := by
  unfold fault?
  constructor
  · intro h
    split at h
    next hblank =>
      cases h
      exact .emptyColumn (trim_eq_nil_iff.1 hblank)
    next hcolumn =>
      split at h
      next hnegative =>
        cases h
        exact .negativeDelta (mt trim_eq_nil_iff.2 hcolumn) (toRat_delta_neg_iff.2 hnegative)
      next => cases h
  · rintro (hblank | ⟨hcolumn, hnegative⟩)
    · rw [if_pos (trim_eq_nil_iff.2 hblank)]
    · rw [if_neg (mt trim_eq_nil_iff.1 hcolumn), if_pos (toRat_delta_neg_iff.1 hnegative)]

theorem fault?_eq_none_iff : rule.fault? = none ↔ rule.Accepted := by
  unfold fault?
  constructor
  · intro h
    split at h
    next => cases h
    next hcolumn =>
      split at h
      next => cases h
      next hdelta =>
        exact ⟨mt trim_eq_nil_iff.2 hcolumn, not_lt.1 (mt toRat_delta_neg_iff.1 hdelta)⟩
  · rintro ⟨hcolumn, hdelta⟩
    rw [if_neg (mt trim_eq_nil_iff.1 hcolumn),
      if_neg (mt toRat_delta_neg_iff.2 (not_lt.2 hdelta))]

end ToleranceRule

namespace ToleranceTable

/-- Tables of tolerances that were filled rule by rule. -/
inductive Registered : ToleranceTable → Prop
  | empty : Registered {}
  | add {t t' : ToleranceTable} {rule : ToleranceRule} (ht : Registered t)
      (h : t.add rule = .ok t') : Registered t'

variable {t t' : ToleranceTable} {rule : ToleranceRule} {rules : List ToleranceRule}

theorem add_eq_ok : t.add rule = .ok t' ↔ rule.fault? = none ∧ t' = ⟨t.rules ++ [rule]⟩ := by
  unfold add
  cases rule.fault? <;> simp [eq_comm]

theorem Registered.addAll (ht : Registered t) (h : t.addAll rules = .ok t') : Registered t' := by
  induction rules generalizing t with
  | nil =>
    cases h
    exact ht
  | cons rule rules ih =>
    obtain ⟨t₁, hadd, hrest⟩ := bind_eq_ok.1 h
    exact ih (ht.add hadd) hrest

/-- Nothing is wrong with a rule that was registered. -/
theorem Registered.fault?_eq_none (ht : Registered t) : ∀ rule ∈ t.rules, rule.fault? = none := by
  induction ht with
  | empty => simp
  | add _ h ih =>
    obtain ⟨hfault, rfl⟩ := add_eq_ok.1 h
    intro rule hrule
    rcases List.mem_append.1 hrule with hrule | hrule
    · exact ih rule hrule
    · rw [List.mem_singleton.1 hrule, hfault]

theorem toRat_nonneg_of_fault? (h : rule.fault? = none) : 0 ≤ rule.delta.toRat :=
  (ToleranceRule.fault?_eq_none_iff.1 h).delta

theorem mem_rules_of_find? {table column : String} (h : t.find? table column = some rule) :
    rule ∈ t.rules := by
  rcases Option.or_eq_some_iff.1 h with h | ⟨-, h⟩
  · exact List.mem_of_find?_eq_some h
  · exact List.mem_of_find?_eq_some h

/-- No tolerated difference is negative. -/
theorem Registered.delta?_nonneg (ht : Registered t) {table column : String} {delta : Decimal}
    (h : t.delta? table column = some delta) : 0 ≤ delta.toRat := by
  obtain ⟨rule, hfind, rfl⟩ := Option.map_eq_some_iff.1 h
  exact toRat_nonneg_of_fault? (ht.fault?_eq_none rule (mem_rules_of_find? hfind))

/-! ## The first rule for a column -/

/-- Rules for another column are not found. -/
theorem find?_eq_none_of_new (hnew : ∀ other ∈ t.rules, other.isForColumn rule.column = false)
    {column : String} (hcolumn : rule.isForColumn column = true) (p : ToleranceRule → Bool) :
    t.rules.find? (fun other => p other && other.isForColumn column) = none := by
  rw [List.find?_eq_none]
  intro other hmem
  have hother : other.isForColumn column = false := by
    rw [← hnew other hmem]
    exact (sameName_congr hcolumn other.column).symm
  rw [hother, Bool.and_false]
  exact Bool.false_ne_true

theorem delta?_eq_none_of_new (hnew : ∀ other ∈ t.rules, other.isForColumn rule.column = false)
    {table column : String} (hcolumn : rule.isForColumn column = true) :
    t.delta? table column = none := by
  rw [delta?, find?, find?_eq_none_of_new hnew hcolumn, find?_eq_none_of_new hnew hcolumn]
  rfl

theorem delta?_add_of_new (hnew : ∀ other ∈ t.rules, other.isForColumn rule.column = false)
    (hadd : t.add rule = .ok t') (table column : String) : t'.delta? table column =
      if rule.covers table column then some rule.delta else t.delta? table column := by
  obtain ⟨-, rfl⟩ := add_eq_ok.1 hadd
  cases hcolumn : rule.isForColumn column with
  | false => simp [delta?, find?, ToleranceRule.covers, hcolumn, List.find?_append]
  | true =>
    rw [delta?_eq_none_of_new hnew hcolumn]
    simp only [delta?, find?, List.find?_append, find?_eq_none_of_new hnew hcolumn]
    cases hany : rule.isForAnyTable <;> cases htable : sameName rule.table table <;>
      simp [ToleranceRule.covers, ToleranceRule.isForTable, hcolumn, hany, htable]

end ToleranceTable

/-- The tolerances of a configuration's registry were registered. -/
theorem Registry.registered_ofConfig {c : Config} {r : Registry} (h : Registry.ofConfig c = .ok r) :
    r.tolerances.Registered := by
  obtain ⟨tolerances, hall, h⟩ := bind_eq_ok.1 h
  cases pure_eq_ok.1 h
  exact ToleranceTable.Registered.empty.addAll hall

end TableDiff
