import TableDiff.Proofs.Dependency.Order

/-!
# Tables that have no order

Orders fail exactly where a kept table refers to another one that has no primary key, and then with
an error about such a table (`order_fails_iff`). Every kept table is a root of the search, so no
such reference is passed over, whatever the order of the search and the cycles among the tables. The
references of one table are found under the same condition on that table alone, in the order of
their names.
-/

namespace TableDiff

open TableDiff.Text

/-- The table of a name refers to another table of the list. -/
def RefersFrom (tables : List Metadata) (name : String) (b : Metadata) : Prop :=
  ∃ a, Refers tables a b ∧ upperName a.name = upperName name

theorem Metadata.hasPrimaryKey_eq_false {m : Metadata} :
    m.hasPrimaryKey = false ↔ m.primaryKey = [] := by
  simp [hasPrimaryKey]

namespace TableSet

variable {s : TableSet} {a b : Metadata} {name : String}

/-! ## The references of one table -/

/-- A table that refers to one without a primary key has no edges. -/
theorem exists_edgesFrom_error (h : s.Distinct) (hb : RefersFrom s.tables name b)
    (hkey : b.primaryKey = []) : ∃ e, s.edgesFrom name = .error e := by
  obtain ⟨a, ⟨ha, hmem, hne, key, hkey', hname'⟩, hname⟩ := hb
  cases hedges : s.edgesFrom name with
  | error e => exact ⟨e, rfl⟩
  | ok edges =>
    unfold edgesFrom at hedges
    rw [(lookup?_eq_some h).2 ⟨ha, hname⟩] at hedges
    obtain ⟨found, hfound, -⟩ := bind_eq_ok.1 hedges
    obtain ⟨x, -, hx⟩ := (mapM_ok_results hfound).1 key hkey'
    rw [edgeFor?_of_reference h ha hmem hne hname',
      Metadata.hasPrimaryKey_eq_false.2 hkey] at hx
    cases hx

/-- Where all tables that are referred to have a primary key, every table has its edges. -/
theorem exists_edgesFrom (h : s.Distinct)
    (hkeys : ∀ a b, Refers s.tables a b → b.hasPrimaryKey = true) (name : String) :
    ∃ edges, s.edgesFrom name = .ok edges := by
  cases hedges : s.edgesFrom name with
  | ok edges => exact ⟨edges, rfl⟩
  | error e =>
    obtain ⟨a, b, hab, -, hkey, -⟩ := edgesFrom_error h hedges
    rw [hkeys a b hab] at hkey
    cases hkey

theorem dependenciesOf_unknown (hunknown : ∀ t ∈ s.tables, upperName t.name ≠ upperName name) :
    s.dependenciesOf name = .ok [] := by
  unfold dependenciesOf edgesFrom
  rw [lookup?_eq_none.2 hunknown]
  exact congrArg Except.ok Search.targets_nil

theorem dependenciesOf_eq_error {e : DependencyError} : s.dependenciesOf name = .error e ↔
    ∃ cause, s.edgesFrom name = .error cause ∧ e = .ofFailure ⟨.edgesFrom, name, cause⟩ := by
  unfold dependenciesOf
  constructor
  · intro he
    rcases bind_eq_error.1 he with he | ⟨_, -, he⟩
    · exact mapError_eq_error.1 he
    · cases he
  · intro he
    exact bind_eq_error.2 (.inl (mapError_eq_error.2 he))

theorem dependenciesOf_eq_ok {names : List String} : s.dependenciesOf name = .ok names ↔
    ∃ edges, s.edgesFrom name = .ok edges ∧ names = Search.targets edges := by
  unfold dependenciesOf
  simp only [bind_eq_ok, mapError_eq_ok, pure_eq_ok]
  exact exists_congr fun edges => and_congr_right fun _ => eq_comm

theorem dependenciesOf_error (h : s.Distinct) {e : DependencyError}
    (he : s.dependenciesOf name = .error e) :
    ∃ b, RefersFrom s.tables name b ∧ b.primaryKey = [] ∧ e = .noPrimaryKey b.name := by
  obtain ⟨cause, hcause, rfl⟩ := dependenciesOf_eq_error.1 he
  obtain ⟨a, b, hab, hname, hkey, rfl⟩ := edgesFrom_error h hcause
  exact ⟨b, ⟨a, hab, hname⟩, Metadata.hasPrimaryKey_eq_false.1 hkey, rfl⟩

theorem exists_dependenciesOf_error (h : s.Distinct) (hb : RefersFrom s.tables name b)
    (hkey : b.primaryKey = []) : ∃ e, s.dependenciesOf name = .error e := by
  obtain ⟨cause, hcause⟩ := exists_edgesFrom_error h hb hkey
  exact ⟨_, dependenciesOf_eq_error.2 ⟨cause, hcause, rfl⟩⟩

theorem dependenciesOf_fails_iff (h : s.Distinct) : (∃ e, s.dependenciesOf name = .error e) ↔
    ∃ b, RefersFrom s.tables name b ∧ b.primaryKey = [] := by
  constructor
  · rintro ⟨e, he⟩
    obtain ⟨b, hb, hkey, -⟩ := dependenciesOf_error h he
    exact ⟨b, hb, hkey⟩
  · rintro ⟨b, hb, hkey⟩
    exact exists_dependenciesOf_error h hb hkey

/-- Where they are found, the names of the tables that a table refers to come in strict order. -/
theorem dependenciesOf_ok (h : s.Distinct) {names : List String}
    (hok : s.dependenciesOf name = .ok names) :
    names.Pairwise (· < ·) ∧ ∀ n, n ∈ names ↔ ∃ b, RefersFrom s.tables name b ∧ b.name = n := by
  obtain ⟨edges, hedges, rfl⟩ := dependenciesOf_eq_ok.1 hok
  have hmem := mem_edgesFrom h hedges
  constructor
  · cases hl : s.lookup? name with
    | none =>
      rw [edgesFrom, hl] at hedges
      cases hedges
      rw [Search.targets_nil]
      exact .nil
    | some t =>
      obtain ⟨ht, hname⟩ := mem_of_lookup? hl
      have hsource : ∀ e ∈ edges, e.source = t.name := by
        intro e he
        obtain ⟨a, b, hab, hupper, rfl⟩ := (hmem e).1 he
        rw [h.eq hab.1 ht (hupper.trans hname.symm)]
      refine (Search.pairwise_targets hsource).imp ?_
      intro m n hlt
      exact compareOfLessAndEq_eq_lt.1 hlt
  · intro n
    rw [Search.mem_targets]
    constructor
    · rintro ⟨e, he, rfl⟩
      obtain ⟨a, b, hab, hupper, rfl⟩ := (hmem e).1 he
      exact ⟨b, ⟨a, hab, hupper⟩, rfl⟩
    · rintro ⟨b, ⟨a, hab, hupper⟩, rfl⟩
      exact ⟨⟨a.name, b.name⟩, (hmem _).2 ⟨a, b, hab, hupper, rfl⟩, rfl⟩

/-! ## Orders -/

theorem insertOrder_error_unkeyed (h : s.Distinct) {e : DependencyError}
    (he : s.insertOrder = .error e) :
    ∃ a b, Refers s.tables a b ∧ b.primaryKey = [] ∧ e = .noPrimaryKey b.name := by
  obtain ⟨a, b, hab, hkey, rfl⟩ := insertOrder_error h he
  exact ⟨a, b, hab, Metadata.hasPrimaryKey_eq_false.1 hkey, rfl⟩

/-- No reference to a table without a primary key is passed over. -/
theorem exists_insertOrder_error (h : s.Distinct) (hab : Refers s.tables a b)
    (hkey : b.primaryKey = []) : ∃ e, s.insertOrder = .error e := by
  cases ho : s.insertOrder with
  | error e => exact ⟨e, rfl⟩
  | ok order =>
    -- an order lists the table, so the search has been told its edges
    obtain ⟨w, hsearch⟩ := insertOrder_eq_ok.1 ho
    have hlisted : a.name ∈ order := (insertOrder_ok h ho).1.mem_iff.2 (mem_names hab.1)
    have hcalled : ∀ n w edges w', s.visitor.edgesFrom n w = (.ok edges, w') →
        ∃ edges, s.edgesFrom n = .ok edges := by
      intro n w edges w' hcall
      exact ⟨edges, congrArg Prod.fst hcall⟩
    obtain ⟨edges, hedges⟩ := Search.edgesFrom_of_search_ok hcalled hsearch a.name hlisted
    obtain ⟨e, he⟩ := exists_edgesFrom_error h ⟨a, hab, rfl⟩ hkey
    rw [hedges] at he
    cases he

/-- Where there is an order, all tables that others refer to have a primary key. -/
theorem hasPrimaryKey_of_insertOrder (h : s.Distinct) {order : List String}
    (ho : s.insertOrder = .ok order) (hab : Refers s.tables a b) : b.hasPrimaryKey = true := by
  by_contra hkey
  rw [Bool.not_eq_true, Metadata.hasPrimaryKey_eq_false] at hkey
  obtain ⟨e, he⟩ := exists_insertOrder_error h hab hkey
  rw [ho] at he
  cases he

theorem insertOrder_fails_iff (h : s.Distinct) : (∃ e, s.insertOrder = .error e) ↔
    ∃ a b, Refers s.tables a b ∧ b.primaryKey = [] := by
  constructor
  · rintro ⟨e, he⟩
    obtain ⟨a, b, hab, hkey, -⟩ := insertOrder_error_unkeyed h he
    exact ⟨a, b, hab, hkey⟩
  · rintro ⟨a, b, hab, hkey⟩
    exact exists_insertOrder_error h hab hkey

theorem deleteOrder_eq_error {e : DependencyError} :
    s.deleteOrder = .error e ↔ s.insertOrder = .error e :=
  map_eq_error

/-- **When tables have no order.** Insert and delete orders fail exactly where a kept table refers
to another one that has no primary key. The error is always about such a table. What the table of
one name refers to is found under the same condition on that table, and is listed in strict order
of the names; a name without a table refers to nothing. -/
theorem order_fails_iff (tables : List Metadata) :
    let s := ofList tables
    let kept := keptTables tables
    ((∃ e, s.insertOrder = .error e) ↔ ∃ a b, Refers kept a b ∧ b.primaryKey = []) ∧
    ((∃ e, s.deleteOrder = .error e) ↔ ∃ a b, Refers kept a b ∧ b.primaryKey = []) ∧
    (∀ e, s.insertOrder = .error e ∨ s.deleteOrder = .error e →
      ∃ a b, Refers kept a b ∧ b.primaryKey = [] ∧ e = .noPrimaryKey b.name) ∧
    ∀ name,
      ((∃ e, s.dependenciesOf name = .error e) ↔
        ∃ b, RefersFrom kept name b ∧ b.primaryKey = []) ∧
      (∀ e, s.dependenciesOf name = .error e →
        ∃ b, RefersFrom kept name b ∧ b.primaryKey = [] ∧ e = .noPrimaryKey b.name) ∧
      (∀ names, s.dependenciesOf name = .ok names →
        names.Pairwise (· < ·) ∧ ∀ n, n ∈ names ↔ ∃ b, RefersFrom kept name b ∧ b.name = n) ∧
      ((∀ t ∈ kept, upperName t.name ≠ upperName name) → s.dependenciesOf name = .ok []) := by
  intro s kept
  have h : s.Distinct := distinct_ofList tables
  have hkept : kept = s.tables := (ofList_tables tables).symm
  rw [hkept]
  refine ⟨insertOrder_fails_iff h, ?_, ?_, ?_⟩
  · simp only [deleteOrder_eq_error]
    exact insertOrder_fails_iff h
  · intro e he
    rw [deleteOrder_eq_error, or_self] at he
    exact insertOrder_error_unkeyed h he
  · intro name
    exact ⟨dependenciesOf_fails_iff h, fun e he => dependenciesOf_error h he,
      fun names hok => dependenciesOf_ok h hok, dependenciesOf_unknown⟩

/-- Tables of which the line refers to two others, and one of these, the order, has no primary
key. -/
def unkeyedTables : List Metadata :=
  [keyedTable "line" ["ORDERS", "Item"], keyedTable "item" ["ITEM"],
    { keyedTable "orders" ["Item", "brand"] with primaryKey := [] }]

theorem unkeyedTables_order_fails :
    (ofList unkeyedTables).insertOrder = .error (.noPrimaryKey "orders") ∧
      (ofList unkeyedTables).dependenciesOf "LINE" = .error (.noPrimaryKey "orders") ∧
      ∃ names, (ofList unkeyedTables).dependenciesOf "Orders" = .ok names ∧ "item" ∈ names := by
  have hkept : keptTables unkeyedTables = unkeyedTables := by decide +kernel
  obtain ⟨hinsert, -, herror, hnames⟩ := order_fails_iff unkeyedTables
  simp only [hkept] at hinsert herror hnames
  have honly : ∀ b ∈ unkeyedTables, b.primaryKey = [] → b.name = "orders" := by decide +kernel
  have hline : Refers unkeyedTables (keyedTable "line" ["ORDERS", "Item"])
      { keyedTable "orders" ["Item", "brand"] with primaryKey := [] } := by decide +kernel
  refine ⟨?_, ?_, ?_⟩
  · obtain ⟨e, he⟩ := hinsert.2 ⟨_, _, hline, rfl⟩
    obtain ⟨a, b, hab, hkey, rfl⟩ := herror e (.inl he)
    rw [he, honly b hab.2.1 hkey]
  · obtain ⟨hfails, hcause, -⟩ := hnames "LINE"
    obtain ⟨e, he⟩ := hfails.2 ⟨_, ⟨_, hline, by decide +kernel⟩, rfl⟩
    obtain ⟨b, ⟨a, hab, -⟩, hkey, rfl⟩ := hcause e he
    rw [he, honly b hab.2.1 hkey]
  · obtain ⟨hfails, -, hlisted, -⟩ := hnames "Orders"
    have hkeyed : ¬ ∃ b, RefersFrom unkeyedTables "Orders" b ∧ b.primaryKey = [] := by
      rintro ⟨b, ⟨a, hab, hname⟩, hkey⟩
      have hcases : ∀ a ∈ unkeyedTables, ∀ b ∈ unkeyedTables, Refers unkeyedTables a b →
          upperName a.name = upperName "Orders" → b.primaryKey ≠ [] := by decide +kernel
      exact hcases a hab.1 b hab.2.1 hab hname hkey
    cases hok : (ofList unkeyedTables).dependenciesOf "Orders" with
    | error e => exact absurd (hfails.1 ⟨e, hok⟩) hkeyed
    | ok names =>
      refine ⟨names, rfl, ((hlisted names hok).2 "item").2 ?_⟩
      exact ⟨keyedTable "item" ["ITEM"], ⟨{ keyedTable "orders" ["Item", "brand"] with
        primaryKey := [] }, by decide +kernel, by decide +kernel⟩, rfl⟩

end TableSet

end TableDiff
