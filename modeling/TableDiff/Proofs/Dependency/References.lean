import Mathlib.Data.List.Forall2
import TableDiff.Proofs.Dependency.Failure
import TableDiff.Proofs.Search.Alike

/-!
# What the order of tables depends on

The search for an order reads three things of a table: its name, whether it has a primary key, and
which of the kept tables its foreign keys name. Sets whose tables agree in these, one by one
(`TableSet.Corresponds`), have the same references (`Corresponds.exists_refers`). Where these can be
followed, the sets are searched alike (`Corresponds.visitor_alike`), so they have the same insert
order (`insertOrder_congr`). In which order, how often and in which letters a table names others
does not count, nor do the columns of its foreign keys or references to tables that are not there.
The errors are left out: which table without a primary key is met first may depend on the order of
the foreign keys.
-/

namespace TableDiff

open TableDiff.Text

namespace Metadata

/-- The tables have one name, and both of them have a primary key or neither has. -/
structure Counterpart (a b : Metadata) : Prop where
  name : a.name = b.name
  hasPrimaryKey : a.hasPrimaryKey = b.hasPrimaryKey

instance (a b : Metadata) : Decidable (a.Counterpart b) :=
  decidable_of_iff (a.name = b.name ∧ a.hasPrimaryKey = b.hasPrimaryKey)
    ⟨fun h => ⟨h.1, h.2⟩, fun h => ⟨h.1, h.2⟩⟩

theorem Counterpart.symm {a b : Metadata} (h : a.Counterpart b) : b.Counterpart a :=
  ⟨h.name.symm, h.hasPrimaryKey.symm⟩

/-- The names of the tables that a table refers to, in upper case. -/
def referencedNames (t : Metadata) : List String :=
  t.foreignKeys.map fun key => upperName key.referencedTable

/-- Of the given names, the foreign keys of both tables refer to the same. -/
def SameReferences (names : List String) (a b : Metadata) : Prop :=
  ∀ n ∈ names, n ∈ a.referencedNames ↔ n ∈ b.referencedNames

instance (names : List String) : DecidableRel (SameReferences names) :=
  fun a b => inferInstanceAs
    (Decidable (∀ n ∈ names, n ∈ a.referencedNames ↔ n ∈ b.referencedNames))

theorem SameReferences.symm {names : List String} {a b : Metadata} (h : SameReferences names a b) :
    SameReferences names b a :=
  fun n hn => (h n hn).symm

end Metadata

open Metadata

/-- The names of the tables, in upper case. -/
def upperNames (tables : List Metadata) : List String := tables.map fun t => upperName t.name

theorem refers_iff {tables : List Metadata} {a b : Metadata} : Refers tables a b ↔
    a ∈ tables ∧ b ∈ tables ∧ b ≠ a ∧ upperName b.name ∈ a.referencedNames := by
  unfold Refers referencedNames
  rw [List.mem_map]

namespace TableSet

variable {s s' : TableSet} {tables tables' : List Metadata} {a b t t' : Metadata}
  {order : List String} {n : String}

/-! ## Sets that correspond -/

theorem names_eq (h : List.Forall₂ Counterpart tables tables') :
    tables.map (·.name) = tables'.map (·.name) := by
  rw [← List.forall₂_eq_eq_eq, List.forall₂_map_left_iff, List.forall₂_map_right_iff]
  exact h.imp fun a b hab => hab.name

theorem upperNames_eq (h : List.Forall₂ Counterpart tables tables') :
    upperNames tables = upperNames tables' := by
  have hupper := congrArg (List.map upperName) (names_eq h)
  rwa [List.map_map, List.map_map] at hupper

/-- A table and its counterpart are both new to sets of counterparts, or neither is. -/
theorem forall₂_insert (h : List.Forall₂ Counterpart s.tables s'.tables) (ht : t.Counterpart t') :
    List.Forall₂ Counterpart (s.insert t).tables (s'.insert t').tables := by
  have hnames : (s.tables.map fun u => upperName u.name) =
      s'.tables.map fun u => upperName u.name := upperNames_eq h
  rw [insert_tables, insert_tables, hnames, ht.name]
  split
  next => exact h
  next => exact List.rel_append h (.cons ht .nil)

theorem forall₂_keptTables (h : List.Forall₂ Counterpart tables tables') :
    List.Forall₂ Counterpart (keptTables tables) (keptTables tables') := by
  have hfold : ∀ {s s' : TableSet}, List.Forall₂ Counterpart s.tables s'.tables →
      List.Forall₂ Counterpart (tables.foldl TableSet.insert s).tables
        (tables'.foldl TableSet.insert s').tables := by
    induction h with
    | nil => exact fun hs => hs
    | cons ht _ ih => exact fun hs => ih (forall₂_insert hs ht)
  rw [← ofList_tables, ← ofList_tables]
  exact hfold .nil

/-- The tables of both sets are counterparts, one by one, and their foreign keys refer to the same
tables of the sets. -/
def Corresponds (s s' : TableSet) : Prop :=
  List.Forall₂ (fun a b => a.Counterpart b ∧ SameReferences (upperNames s.tables) a b)
    s.tables s'.tables

namespace Corresponds

theorem counterparts (h : s.Corresponds s') : List.Forall₂ Counterpart s.tables s'.tables :=
  h.imp fun _ _ hab => hab.1

theorem symm (h : s.Corresponds s') : s'.Corresponds s := by
  unfold Corresponds
  rw [← upperNames_eq h.counterparts]
  exact (h.imp fun _ _ hab => ⟨hab.1.symm, hab.2.symm⟩).flip

theorem exists_mem (h : s.Corresponds s') (ha : a ∈ s.tables) :
    ∃ a' ∈ s'.tables, a.Counterpart a' ∧ SameReferences (upperNames s.tables) a a' := by
  obtain ⟨i, hi, rfl⟩ := List.getElem_of_mem ha
  have hi' : i < s'.tables.length := h.length_eq ▸ hi
  exact ⟨s'.tables[i], List.getElem_mem hi', h.get hi hi'⟩

/-- References between tables are references between their counterparts. -/
theorem exists_refers (h : s.Corresponds s') (hs : s.Distinct) (hab : Refers s.tables a b) :
    ∃ a' b', Refers s'.tables a' b' ∧ a.Counterpart a' ∧ b.Counterpart b' := by
  obtain ⟨ha, hb, hne, hname⟩ := refers_iff.1 hab
  obtain ⟨a', ha', haa', hrefs⟩ := h.exists_mem ha
  obtain ⟨b', hb', hbb', -⟩ := h.exists_mem hb
  refine ⟨a', b', refers_iff.2 ⟨ha', hb', ?_, ?_⟩, haa', hbb'⟩
  · rintro rfl
    exact hne (hs.eq hb ha (congrArg upperName (hbb'.name.trans haa'.name.symm)))
  · rw [← hbb'.name]
    exact (hrefs _ (List.mem_map_of_mem hb)).1 hname

theorem graph_edges_subset (h : s.Corresponds s') (hs : s.Distinct) :
    s.graph.edges n ⊆ s'.graph.edges n := by
  rintro _ ⟨a, b, hab, hname, rfl⟩
  obtain ⟨a', b', hab', haa', hbb'⟩ := h.exists_refers hs hab
  rw [haa'.name, hbb'.name]
  exact ⟨a', b', hab', haa'.name ▸ hname, rfl⟩

/-! ## Searches for an order -/

/-- Sets that correspond are searched alike, if their references can be followed. -/
theorem visitor_alike (h : s.Corresponds s') (hs : s.Distinct) (hs' : s'.Distinct)
    (hkeys : ∀ a b, Refers s.tables a b → b.hasPrimaryKey = true) :
    s.visitor.Alike s'.visitor where
  shouldVisit _ _ := rfl
  nodeAdded _ _ := rfl
  edgesFrom n w := by
    have hkeys' : ∀ a b, Refers s'.tables a b → b.hasPrimaryKey = true := by
      intro a' b' hab'
      obtain ⟨a, b, hab, -, hb⟩ := h.symm.exists_refers hs' hab'
      rw [hb.hasPrimaryKey]
      exact hkeys a b hab
    obtain ⟨edges, hedges⟩ := exists_edgesFrom hs hkeys n
    obtain ⟨edges', hedges'⟩ := exists_edgesFrom hs' hkeys' n
    simp only [visitor, hedges, hedges']
    refine .ok fun e => ?_
    rw [mem_edgesFrom hs hedges, mem_edgesFrom hs' hedges']
    exact ⟨fun he => h.graph_edges_subset hs he, fun he => h.symm.graph_edges_subset hs' he⟩

/-- An order of one set is found for the other as well. -/
theorem same_order (h : s.Corresponds s') (hs : s.Distinct) (hs' : s'.Distinct)
    (ho : s.insertOrder = .ok order) : s'.insertOrder = .ok order := by
  have halike : s.visitor.Alike s'.visitor :=
    h.visitor_alike hs hs' fun a b hab => hasPrimaryKey_of_insertOrder hs ho hab
  obtain ⟨w, hsearch⟩ := insertOrder_eq_ok.1 ho
  rw [Search.search_alike halike, names_eq h.counterparts, h.length_eq] at hsearch
  exact insertOrder_eq_ok.2 ⟨w, hsearch⟩

end Corresponds

/-- **The order depends only on names, keys and the set of references.** Let two lists of tables
have the same names and, table by table, primary keys in both or in neither, and let the foreign
keys of each kept table and its counterpart refer to the same kept tables. Then an insert order is
found for one list exactly where one is found for the other, and it is the same. -/
theorem insertOrder_congr (tables tables' : List Metadata)
    (hsame : List.Forall₂ Counterpart tables tables')
    (hrefs : List.Forall₂ (SameReferences (upperNames (keptTables tables)))
      (keptTables tables) (keptTables tables')) (order : List String) :
    (ofList tables).insertOrder = .ok order ↔ (ofList tables').insertOrder = .ok order := by
  have h : (ofList tables).Corresponds (ofList tables') := by
    unfold Corresponds
    rw [ofList_tables, ofList_tables]
    exact (forall₂_keptTables hsame).mp (fun _ _ hab hrefs => ⟨hab, hrefs⟩) hrefs
  have hs : (ofList tables).Distinct := distinct_ofList tables
  have hs' : (ofList tables').Distinct := distinct_ofList tables'
  exact ⟨h.same_order hs hs', h.symm.same_order hs' hs⟩

/-- Tables of accounts, of which an entry refers to two others and one name is there twice. -/
def ledgerTables : List Metadata :=
  [keyedTable "entry" ["account", "BOOK"], keyedTable "Account" ["book", "account"],
    keyedTable "book", keyedTable "ENTRY" ["book"],
    { keyedTable "note" ["entry"] with primaryKey := [] }]

/-- The same tables with their references given in another way: in another order and in other
letters, repeated, under other columns, and with references to tables that are not there. -/
def restatedLedgerTables : List Metadata :=
  [{ keyedTable "entry" with
      foreignKeys := [⟨some "entry_book", ["volume", "page"], "Book", ["volume", "page"]⟩,
        ⟨none, ["debit"], "ACCOUNT", ["id"]⟩, ⟨none, ["credit"], "account", ["id"]⟩] },
    keyedTable "Account" ["branch", "Account", "Book"], keyedTable "book" ["shelf"],
    keyedTable "ENTRY", { keyedTable "note" ["Entry", "author"] with primaryKey := [] }]

theorem ledgerTables_restated :
    ∃ order, (ofList ledgerTables).insertOrder = .ok order ∧
      (ofList restatedLedgerTables).insertOrder = .ok order := by
  have hkeys : ∀ a ∈ keptTables ledgerTables, ∀ b ∈ keptTables ledgerTables,
      Refers (keptTables ledgerTables) a b → b.hasPrimaryKey = true := by decide +kernel
  obtain ⟨order, ho⟩ := exists_insertOrder (distinct_ofList ledgerTables) (by
    rw [ofList_tables]
    exact fun a b hab => hkeys a hab.1 b hab.2.1 hab)
  refine ⟨order, ho, ?_⟩
  have hsame : List.Forall₂ Counterpart ledgerTables restatedLedgerTables := by decide +kernel
  have hrefs : List.Forall₂ (SameReferences (upperNames (keptTables ledgerTables)))
      (keptTables ledgerTables) (keptTables restatedLedgerTables) := by decide +kernel
  exact (insertOrder_congr ledgerTables restatedLedgerTables hsame hrefs order).1 ho

end TableSet

end TableDiff
