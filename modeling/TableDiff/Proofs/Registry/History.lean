import TableDiff.Proofs.Registry.Tolerances

/-!
# Tolerances by the history of their registration

What a table of tolerances answers is decided by the calls that registered rules, whether they were
accepted or refused, in whatever order they came (`lookup_follows_history`): the earliest accepted
rule for a column of the named table, else the earliest accepted rule for that column of any table.

A refused call leaves the table as it is (`register`), so the rules of a table are the accepted ones
of its history (`rules_after`). With this a search in the table is one in the history
(`find?_rules_after`). A registry that is set up from a configuration has its tolerances from the
same calls (`tolerances_ofConfig`), unless one of them is refused (`ofConfig_eq_error`).
-/

namespace TableDiff

open TableDiff.Numeric TableDiff.Text

/-- The first entry of a list that satisfies `p`. -/
def FirstWith {α : Type} (p : α → Prop) (xs : List α) (x : α) : Prop :=
  ∃ before after, xs = before ++ x :: after ∧ p x ∧ ∀ y ∈ before, ¬ p y

theorem find?_eq_some_iff_firstWith {α : Type} {p : α → Bool} {xs : List α} {x : α} :
    xs.find? p = some x ↔ FirstWith (fun y => p y = true) xs x := by
  rw [List.find?_eq_some_iff_append]
  constructor
  · rintro ⟨hx, before, after, rfl, hbefore⟩
    exact ⟨before, after, rfl, hx, fun y hy => by simpa using hbefore y hy⟩
  · rintro ⟨before, after, rfl, hx, hbefore⟩
    exact ⟨hx, before, after, rfl, fun y hy => by simpa using hbefore y hy⟩

theorem not_firstWith_nil {α : Type} {p : α → Prop} {x : α} : ¬ FirstWith p [] x := by
  rintro ⟨before, after, h, -⟩
  exact List.append_ne_nil_of_right_ne_nil before (List.cons_ne_nil x after) h.symm

theorem firstWith_cons_iff {α : Type} {p : α → Prop} {xs : List α} {x y : α} :
    FirstWith p (x :: xs) y ↔ (y = x ∧ p x) ∨ (¬ p x ∧ FirstWith p xs y) := by
  constructor
  · rintro ⟨before, after, h, hy, hbefore⟩
    cases before with
    | nil =>
      cases h
      exact .inl ⟨rfl, hy⟩
    | cons z before =>
      cases h
      obtain ⟨hz, hbefore⟩ := List.forall_mem_cons.1 hbefore
      exact .inr ⟨hz, before, after, rfl, hy, hbefore⟩
  · rintro (⟨rfl, hy⟩ | ⟨hx, before, after, rfl, hy, hbefore⟩)
    · exact ⟨[], xs, rfl, hy, List.forall_mem_nil _⟩
    · exact ⟨x :: before, after, rfl, hy, List.forall_mem_cons.2 ⟨hx, hbefore⟩⟩

namespace ToleranceRule

/-- The rule can be registered, and it is for a column of the table that it names. -/
def NamesTable (table column : String) (rule : ToleranceRule) : Prop :=
  rule.Accepted ∧ rule.table ≠ "*" ∧ sameName rule.table table = true ∧
    sameName rule.column column = true

/-- The rule can be registered, and it is for a column of any table. -/
def ForAnyTable (column : String) (rule : ToleranceRule) : Prop :=
  rule.Accepted ∧ rule.table = "*" ∧ sameName rule.column column = true

theorem Refused.not_accepted {rule : ToleranceRule} {e : ConfigurationError}
    (h : rule.Refused e) : ¬ rule.Accepted := by
  rw [← fault?_eq_none_iff, fault?_eq_some_iff.2 h]
  exact Option.some_ne_none e

theorem exists_refused {rule : ToleranceRule} (h : ¬ rule.Accepted) : ∃ e, rule.Refused e := by
  rw [← fault?_eq_none_iff] at h
  obtain ⟨e, he⟩ := Option.ne_none_iff_exists'.1 h
  exact ⟨e, fault?_eq_some_iff.1 he⟩

theorem isNone_fault? {rule : ToleranceRule} : rule.fault?.isNone = true ↔ rule.Accepted := by
  rw [Option.isNone_iff_eq_none, fault?_eq_none_iff]

end ToleranceRule

/-- The tolerated difference that a history of registrations settles for a column of a table: that
of the earliest rule that names the table, else that of the earliest rule for any table. -/
inductive Tolerates (history : List ToleranceRule) (table column : String) : Option Decimal → Prop
  | byName {rule : ToleranceRule} (h : FirstWith (·.NamesTable table column) history rule) :
      Tolerates history table column (some rule.delta)
  | forAnyTable {rule : ToleranceRule} (hname : ∀ r ∈ history, ¬ r.NamesTable table column)
      (h : FirstWith (·.ForAnyTable column) history rule) :
      Tolerates history table column (some rule.delta)
  | nothing (hname : ∀ r ∈ history, ¬ r.NamesTable table column)
      (hany : ∀ r ∈ history, ¬ r.ForAnyTable column) : Tolerates history table column none

namespace ToleranceTable

/-- The table after a call that registers a rule: as it was if the rule is refused. -/
def register (t : ToleranceTable) (rule : ToleranceRule) : ToleranceTable :=
  match t.add rule with
  | .ok t' => t'
  | .error _ => t

/-- The table after all calls of a history. -/
def after (history : List ToleranceRule) : ToleranceTable := history.foldl register {}

variable {t t' : ToleranceTable} {rule : ToleranceRule} {rules history : List ToleranceRule}
  {table column : String} {e : ConfigurationError}

/-! ## One call -/

theorem add_eq_error : t.add rule = .error e ↔ rule.Refused e := by
  rw [← ToleranceRule.fault?_eq_some_iff]
  unfold add
  cases rule.fault? <;> simp

theorem register_of_add (h : t.add rule = .ok t') : t.register rule = t' := by
  unfold register
  rw [h]

theorem register_of_refused (h : ¬ rule.Accepted) : t.register rule = t := by
  obtain ⟨e, he⟩ := ToleranceRule.exists_refused h
  unfold register
  rw [add_eq_error.2 he]

/-- One call adds the rule if it is accepted, and nothing otherwise. -/
theorem rules_register (t : ToleranceTable) (rule : ToleranceRule) :
    (t.register rule).rules = t.rules ++ [rule].filter (·.fault?.isNone) := by
  cases hfault : rule.fault? with
  | none =>
    rw [register_of_add (add_eq_ok.2 ⟨hfault, rfl⟩)]
    simp [hfault]
  | some fault =>
    rw [register_of_refused (ToleranceRule.fault?_eq_some_iff.1 hfault).not_accepted]
    simp [hfault]

/-! ## All calls of a history -/

theorem rules_foldl_register (history : List ToleranceRule) (t : ToleranceTable) :
    (history.foldl register t).rules = t.rules ++ history.filter (·.fault?.isNone) := by
  induction history generalizing t with
  | nil => simp
  | cons rule history ih =>
    rw [List.foldl_cons, ih, rules_register, List.append_assoc, ← List.filter_append]
    rfl

/-- The rules of a table are the accepted ones of its history, in order. -/
theorem rules_after (history : List ToleranceRule) :
    (after history).rules = history.filter (·.fault?.isNone) := by
  rw [after, rules_foldl_register, List.nil_append]

theorem after_append (earlier later : List ToleranceRule) :
    after (earlier ++ later) = later.foldl register (after earlier) :=
  List.foldl_append

theorem accepted_of_mem_after (h : rule ∈ (after history).rules) : rule.Accepted := by
  rw [rules_after, List.mem_filter] at h
  exact ToleranceRule.isNone_fault?.1 h.2

/-- A refused call changes nothing, then or later. -/
theorem after_of_refused (earlier later : List ToleranceRule) (h : ¬ rule.Accepted) :
    after (earlier ++ rule :: later) = after (earlier ++ later) := by
  rw [after_append, after_append, List.foldl_cons, register_of_refused h]

/-- A search in the rules of a table is one in its history that passes over refused calls. -/
theorem find?_rules_after (q : ToleranceRule → Bool) :
    (after history).rules.find? q = history.find? fun r => r.fault?.isNone && q r := by
  rw [rules_after, List.find?_filter]
  simp only [Bool.decide_and, Bool.decide_eq_true]

section Found

variable {q : ToleranceRule → Bool} {p : ToleranceRule → Prop}
  (hq : ∀ r, p r ↔ r.Accepted ∧ q r = true)

include hq

theorem find?_rules_eq_some :
    (after history).rules.find? q = some rule ↔ FirstWith p history rule := by
  rw [find?_rules_after, find?_eq_some_iff_firstWith]
  simp only [Bool.and_eq_true, ToleranceRule.isNone_fault?, ← hq]

theorem find?_rules_eq_none :
    (after history).rules.find? q = none ↔ ∀ r ∈ history, ¬ p r := by
  rw [find?_rules_after, List.find?_eq_none]
  simp only [Bool.and_eq_true, ToleranceRule.isNone_fault?, ← hq]

end Found

theorem namesTable_iff (r : ToleranceRule) : r.NamesTable table column ↔
    r.Accepted ∧ (r.isForTable table && r.isForColumn column) = true := by
  simp [ToleranceRule.NamesTable, ToleranceRule.isForTable, ToleranceRule.isForAnyTable,
    ToleranceRule.isForColumn, and_assoc]

theorem forAnyTable_iff (r : ToleranceRule) : r.ForAnyTable column ↔
    r.Accepted ∧ (r.isForAnyTable && r.isForColumn column) = true := by
  simp [ToleranceRule.ForAnyTable, ToleranceRule.isForAnyTable, ToleranceRule.isForColumn]

/-- What is found in a table is what its history settles, and nothing else is. -/
theorem delta?_after {delta? : Option Decimal} :
    (after history).delta? table column = delta? ↔ Tolerates history table column delta? := by
  unfold ToleranceTable.delta? find?
  constructor
  · rintro rfl
    cases hname : (after history).rules.find?
        fun r => r.isForTable table && r.isForColumn column with
    | some rule => exact .byName ((find?_rules_eq_some namesTable_iff).1 hname)
    | none =>
      have hnobody := (find?_rules_eq_none namesTable_iff).1 hname
      cases hany : (after history).rules.find? fun r => r.isForAnyTable && r.isForColumn column with
      | some rule => exact .forAnyTable hnobody ((find?_rules_eq_some forAnyTable_iff).1 hany)
      | none => exact .nothing hnobody ((find?_rules_eq_none forAnyTable_iff).1 hany)
  · rintro (hname | ⟨hname, hany⟩ | ⟨hname, hany⟩)
    · rw [(find?_rules_eq_some namesTable_iff).2 hname]
      rfl
    · rw [(find?_rules_eq_none namesTable_iff).2 hname,
        (find?_rules_eq_some forAnyTable_iff).2 hany]
      rfl
    · rw [(find?_rules_eq_none namesTable_iff).2 hname,
        (find?_rules_eq_none forAnyTable_iff).2 hany]
      rfl

/-! ## Lists of rules -/

theorem eq_foldl_register_of_addAll (h : t.addAll rules = .ok t') :
    t' = rules.foldl register t := by
  induction rules generalizing t with
  | nil =>
    cases h
    rfl
  | cons rule rules ih =>
    obtain ⟨t₁, hadd, hrest⟩ := bind_eq_ok.1 h
    rw [List.foldl_cons, register_of_add hadd, ih hrest]

/-- A list of rules is refused as a whole for the first of them that is refused. -/
theorem addAll_eq_error : t.addAll rules = .error e ↔
    ∃ rule, FirstWith (fun r => ¬ r.Accepted) rules rule ∧ rule.Refused e := by
  induction rules generalizing t with
  | nil =>
    refine iff_of_false (fun h => nomatch h) ?_
    rintro ⟨rule, hfirst, -⟩
    exact not_firstWith_nil hfirst
  | cons rule rules ih =>
    rw [addAll, bind_eq_error, add_eq_error]
    simp only [firstWith_cons_iff, ih, add_eq_ok, not_not]
    constructor
    · rintro (hrefused | ⟨t₁, ⟨hfault, -⟩, r, hfirst, hrefused⟩)
      · exact ⟨rule, .inl ⟨rfl, hrefused.not_accepted⟩, hrefused⟩
      · exact ⟨r, .inr ⟨ToleranceRule.fault?_eq_none_iff.1 hfault, hfirst⟩, hrefused⟩
    · rintro ⟨r, ⟨rfl, -⟩ | ⟨hrule, hfirst⟩, hrefused⟩
      · exact .inl hrefused
      · exact .inr ⟨_, ⟨ToleranceRule.fault?_eq_none_iff.2 hrule, rfl⟩, r, hfirst, hrefused⟩

end ToleranceTable

/-! ## Registries -/

namespace Registry

variable {r : Registry} {c : Config} {e : ConfigurationError}

/-- The registry after a call that registers a tolerance: as it was if the rule is refused. -/
def registerTolerance (r : Registry) (rule : ToleranceRule) : Registry :=
  match r.addTolerance rule with
  | .ok r' => r'
  | .error _ => r

theorem tolerances_registerTolerance (r : Registry) (rule : ToleranceRule) :
    (r.registerTolerance rule).tolerances = r.tolerances.register rule := by
  unfold registerTolerance addTolerance ToleranceTable.register
  cases r.tolerances.add rule <;> rfl

theorem tolerances_foldl_registerTolerance (history : List ToleranceRule) (r : Registry) :
    (history.foldl registerTolerance r).tolerances =
      history.foldl ToleranceTable.register r.tolerances := by
  induction history generalizing r with
  | nil => rfl
  | cons rule history ih => rw [List.foldl_cons, List.foldl_cons, ih, tolerances_registerTolerance]

theorem tolerances_ofConfig (h : ofConfig c = .ok r) :
    r.tolerances = ToleranceTable.after c.tolerances := by
  obtain ⟨tolerances, hall, h⟩ := bind_eq_ok.1 h
  cases pure_eq_ok.1 h
  exact ToleranceTable.eq_foldl_register_of_addAll hall

theorem ofConfig_eq_error : ofConfig c = .error e ↔
    ∃ rule, FirstWith (fun r => ¬ r.Accepted) c.tolerances rule ∧ rule.Refused e := by
  rw [← ToleranceTable.addAll_eq_error (t := {}), ofConfig, bind_eq_error]
  exact or_iff_left fun ⟨_, _, h⟩ => nomatch h

end Registry

/-! ## The law of lookups -/

namespace ToleranceTable

/-- **Lookups follow the history of registrations.** After any calls, a tolerated difference is that
of the earliest accepted rule that names the table and the column, else of the earliest accepted
rule for that column of any table. A call is refused for a blank column name or else for a negative
difference; it changes nothing, and no such rule is in the table. A configuration is refused for the
first of its rules that is; else its registry has the tolerances that its rules and all later calls
make. -/
theorem lookup_follows_history (history : List ToleranceRule) :
    (∀ table column delta?, (after history).delta? table column = delta? ↔
      Tolerates history table column delta?) ∧
    (∀ rule e, (after history).add rule = .error e ↔ rule.Refused e) ∧
    (∀ earlier rule later e, history = earlier ++ rule :: later →
      (after earlier).add rule = .error e → after history = after (earlier ++ later)) ∧
    (∀ rule ∈ (after history).rules, ¬ rule.HasBlankColumn ∧ 0 ≤ rule.delta.toRat) ∧
    ∀ c : Config, c.tolerances = history →
      (∀ e, Registry.ofConfig c = .error e ↔
        ∃ rule, FirstWith (fun r => ¬ r.Accepted) history rule ∧ rule.Refused e) ∧
      ∀ r, Registry.ofConfig c = .ok r → ∀ later,
        (later.foldl Registry.registerTolerance r).tolerances = after (history ++ later) := by
  refine ⟨fun table column delta? => delta?_after, fun rule e => add_eq_error, ?_, ?_, ?_⟩
  · rintro earlier rule later e rfl hadd
    exact after_of_refused earlier later (add_eq_error.1 hadd).not_accepted
  · intro rule hrule
    have haccepted := accepted_of_mem_after hrule
    exact ⟨haccepted.column, haccepted.delta⟩
  · rintro c rfl
    refine ⟨fun e => Registry.ofConfig_eq_error, fun r hr later => ?_⟩
    rw [Registry.tolerances_foldl_registerTolerance, Registry.tolerances_ofConfig hr, after_append]

/-- Rules for totals of any table, of orders and of refunds. -/
def totalRules : List ToleranceRule :=
  [⟨"*", "total", .ofInt64 5⟩, ⟨"ORDERS", "TOTAL", .ofInt64 2⟩, ⟨"orders", "total", .one⟩,
    ⟨"refunds", "TOTAL", .signedZero true⟩]

/-- The same rules among others that are refused. -/
def totalCalls : List ToleranceRule :=
  ⟨"ORDERS", "TOTAL", .ofInt64 (-1)⟩ :: ⟨"ORDERS", " \u00a0", .ofInt64 (-1)⟩ :: totalRules

theorem totals_follow_history :
    Tolerates totalCalls "orders" "Total" (some (.ofInt64 2)) ∧
      Tolerates totalCalls "Refunds" "total" (some (.signedZero true)) ∧
      Tolerates totalCalls "INVOICES" "TOTAL" (some (.ofInt64 5)) ∧
      Tolerates totalCalls "ORDERS" "PRICE" none ∧
      (after totalCalls).add ⟨"ORDERS", " \u00a0", .ofInt64 (-1)⟩ =
        .error (.emptyColumn "ORDERS") ∧
      after totalCalls = after totalRules ∧
      (⟨"*", "total", .ofInt64 5⟩ ∈ (after totalCalls).rules ∧ 0 ≤ (Decimal.ofInt64 5).toRat) ∧
      Registry.ofConfig { tolerances := totalCalls } =
        .error (.negativeDelta "ORDERS" "TOTAL" (.ofInt64 (-1))) ∧
      ∃ r, Registry.ofConfig { tolerances := totalRules } = .ok r ∧
        (r.registerTolerance ⟨"T", "C", .ofInt64 (-1)⟩).tolerances =
          after (totalRules ++ [⟨"T", "C", .ofInt64 (-1)⟩]) := by
  obtain ⟨hlookup, hrefused, -, haccepted, hconfig⟩ := lookup_follows_history totalCalls
  have hblank : ToleranceRule.HasBlankColumn ⟨"ORDERS", " \u00a0", .ofInt64 (-1)⟩ := by
    decide +kernel
  have hnegative : ToleranceRule.Refused ⟨"ORDERS", "TOTAL", .ofInt64 (-1)⟩
      (.negativeDelta "ORDERS" "TOTAL" (.ofInt64 (-1))) :=
    ToleranceRule.fault?_eq_some_iff.1 (by decide +kernel)
  have hmem : ⟨"*", "total", .ofInt64 5⟩ ∈ (after totalCalls).rules := by decide +kernel
  refine ⟨(hlookup _ _ _).1 (by decide +kernel), (hlookup _ _ _).1 (by decide +kernel),
    (hlookup _ _ _).1 (by decide +kernel), (hlookup _ _ _).1 (by decide +kernel),
    (hrefused _ _).2 (.emptyColumn hblank), ?_, ⟨hmem, (haccepted _ hmem).2⟩, ?_, ?_⟩
  · -- the two refused calls are left out one after the other
    obtain ⟨-, -, hfirst, -⟩ := lookup_follows_history totalCalls
    obtain ⟨-, -, hsecond, -⟩ :=
      lookup_follows_history (⟨"ORDERS", " \u00a0", .ofInt64 (-1)⟩ :: totalRules)
    rw [hfirst [] _ _ _ rfl (add_eq_error.2 hnegative)]
    exact hsecond [] _ _ _ rfl (add_eq_error.2 (.emptyColumn hblank))
  · exact ((hconfig { tolerances := totalCalls } rfl).1 _).2
      ⟨_, ⟨[], _, rfl, hnegative.not_accepted, List.forall_mem_nil _⟩, hnegative⟩
  · obtain ⟨-, -, -, -, hrules⟩ := lookup_follows_history totalRules
    obtain ⟨r, hr⟩ : ∃ r, Registry.ofConfig { tolerances := totalRules } = .ok r := ⟨_, by rfl⟩
    have hlater := (hrules { tolerances := totalRules } rfl).2 r hr [⟨"T", "C", .ofInt64 (-1)⟩]
    rw [List.foldl_cons, List.foldl_nil] at hlater
    exact ⟨r, hr, hlater⟩

end ToleranceTable

end TableDiff
