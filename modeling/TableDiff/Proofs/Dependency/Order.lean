import Mathlib.Data.List.Perm.Basic
import TableDiff.DataSet
import TableDiff.Proofs.Dependency.TableSet

/-!
# The order of dependent tables

The insert order lists each kept table once, behind the tables that it refers to unless one of them
depends on it in turn; the delete order is the reverse (`insertOrder_valid`). The only failure is a
reference to a table without a primary key (`insertOrder_error`), so an order exists where all
tables have one. The tables that are not kept are in no order: among tables that a data set tells
apart, all are listed exactly where no two of them have one name in upper case
(`insertOrder_lists_all_iff`). For names of ASCII characters this is so.
-/

namespace TableDiff

open TableDiff.Text

namespace TableSet

variable {s : TableSet} {a b : Metadata} {order : List String} {n : String}

/-! ## The graph of references -/

theorem mem_names (ha : a ∈ s.tables) : a.name ∈ s.tables.map (·.name) :=
  List.mem_map_of_mem ha

theorem leads_iff (h : s.Distinct) (ha : a ∈ s.tables) :
    s.graph.Leads a.name n ↔ ∃ b, Refers s.tables a b ∧ b.name = n := by
  constructor
  · rintro ⟨⟨_, ⟨c, b, hcb, hname, rfl⟩, rfl⟩, -⟩
    have hc : c = a := h.eq hcb.1 ha hname
    subst hc
    exact ⟨b, hcb, rfl⟩
  · rintro ⟨b, hab, rfl⟩
    exact ⟨⟨⟨a.name, b.name⟩, ⟨a, b, hab, rfl, rfl⟩, rfl⟩, rfl⟩

/-- A path from a table leads to a table, along references. -/
theorem exists_of_reaches (h : s.Distinct) (ha : a ∈ s.tables) (hr : s.graph.Reaches a.name n) :
    ∃ b ∈ s.tables, b.name = n ∧ Relation.ReflTransGen (Refers s.tables) a b := by
  -- the nodes of the path are names; each is that of one table, as names are distinct
  induction hr with
  | refl => exact ⟨a, ha, rfl, .refl⟩
  | tail _ hlead ih =>
    obtain ⟨b, hb, rfl, hab⟩ := ih
    obtain ⟨c, hbc, rfl⟩ := (leads_iff h hb).1 hlead
    exact ⟨c, hbc.2.1, rfl, hab.tail hbc⟩

theorem dependsOn_of_reaches (h : s.Distinct) (ha : a ∈ s.tables) (hb : b ∈ s.tables)
    (hne : a ≠ b) (hr : s.graph.Reaches a.name b.name) : DependsOn s.tables a b := by
  obtain ⟨c, hc, hname, hac⟩ := exists_of_reaches h ha hr
  have hcb : c = b := h.eq hc hb (congrArg upperName hname)
  subst hcb
  exact (Relation.reflTransGen_iff_eq_or_transGen.1 hac).resolve_left hne.symm

theorem reachedFrom_iff (h : s.Distinct) :
    s.graph.ReachedFrom (s.tables.map (·.name)) n ↔ n ∈ s.tables.map (·.name) := by
  constructor
  · rintro ⟨_, hroot, -, hr⟩
    obtain ⟨a, ha, rfl⟩ := List.mem_map.1 hroot
    obtain ⟨b, hb, rfl, -⟩ := exists_of_reaches h ha hr
    exact mem_names hb
  · exact fun hn => ⟨n, hn, rfl, .refl⟩

/-! ## The outcome of the search -/

theorem search_ends (h : s.Distinct) :
    ∃ out w, Search.search s.visitor s.tables.length (s.tables.map (·.name)) () =
      some (out, w) := by
  have hset : {n | s.graph.ReachedFrom (s.tables.map (·.name)) n} =
      ((s.tables.map (·.name)).toFinset : Set String) := by
    ext n
    simp only [Set.mem_ofPred_eq, reachedFrom_iff h, List.coe_toFinset]
  refine Search.search_ends (visitor_answers h) ?_ ?_ ()
  · rw [hset]
    exact Finset.finite_toSet _
  · rw [hset, Set.ncard_coe_finset]
    exact (List.toFinset_card_le _).trans (List.length_map _).le

theorem insertOrder_eq_ok : s.insertOrder = .ok order ↔
    ∃ w, Search.search s.visitor s.tables.length (s.tables.map (·.name)) () =
      some (.ok order, w) := by
  unfold insertOrder
  split
  next h => simp [h]
  next h => simp [h]
  next h => simp [h]

/-- An order lists each table once, and a table behind those that it refers to, cycles excepted. -/
theorem insertOrder_ok (h : s.Distinct) (ho : s.insertOrder = .ok order) :
    order.Perm (s.tables.map (·.name)) ∧
      ∀ a b, Refers s.tables a b → ¬ DependsOn s.tables b a → [b.name, a.name].Sublist order := by
  obtain ⟨w, hs⟩ := insertOrder_eq_ok.1 ho
  obtain ⟨hnodup, hmem, hordered⟩ := Search.search_ok (visitor_answers h) hs
  have hperm : order.Perm (s.tables.map (·.name)) :=
    (List.perm_ext_iff_of_nodup hnodup h.nodup_names).2 fun n => (hmem n).trans (reachedFrom_iff h)
  refine ⟨hperm, fun a b hab hcycle => ?_⟩
  have ha : a.name ∈ order := hperm.mem_iff.2 (mem_names hab.1)
  refine (hordered a.name ha b.name ((leads_iff h hab.1).2 ⟨b, hab, rfl⟩)).resolve_right ?_
  exact fun hr => hcycle (dependsOn_of_reaches h hab.2.1 hab.1 hab.2.2.1 hr)

theorem edgesFrom_error (h : s.Distinct) {e : ReferenceError} (he : s.edgesFrom n = .error e) :
    ∃ a b, Refers s.tables a b ∧ upperName a.name = upperName n ∧ b.hasPrimaryKey = false ∧
      e = .noPrimaryKey b.name := by
  unfold edgesFrom at he
  split at he
  next => cases he
  next t hl =>
    obtain ⟨ht, hname⟩ := mem_of_lookup? hl
    rcases bind_eq_error.1 he with hkeys | ⟨_, -, hpure⟩
    · obtain ⟨key, hkey, hedge⟩ := mapM_eq_error hkeys
      rcases edgeFor?_cases h ht hkey with hnone | ⟨u, htu, hcase⟩
      · rw [hnone] at hedge
        cases hedge
      · rw [hcase] at hedge
        split at hedge
        next => cases hedge
        next hpk =>
          cases hedge
          exact ⟨t, u, htu, hname, by simpa using hpk, rfl⟩
    · cases hpure

/-- The only failure is a reference to a table without a primary key. -/
theorem insertOrder_error (h : s.Distinct) {e : DependencyError} (he : s.insertOrder = .error e) :
    ∃ a b, Refers s.tables a b ∧ b.hasPrimaryKey = false ∧ e = .noPrimaryKey b.name := by
  obtain ⟨out, w, hs⟩ := search_ends h
  rw [insertOrder, hs] at he
  cases out with
  | ok order => cases he
  | error failure =>
    cases he
    obtain ⟨stage, node, cause⟩ := failure
    obtain ⟨w₁, hcall⟩ := Search.search_failed hs
    cases stage with
    | shouldVisit => cases hcall
    | nodeAdded => cases hcall
    | edgesFrom =>
      obtain ⟨a, b, hab, -, hb, rfl⟩ := edgesFrom_error h (congrArg Prod.fst hcall)
      exact ⟨a, b, hab, hb, rfl⟩

/-- Tables have an order if all tables that are referred to have a primary key. -/
theorem exists_insertOrder (h : s.Distinct)
    (hkeys : ∀ a b, Refers s.tables a b → b.hasPrimaryKey = true) :
    ∃ order, s.insertOrder = .ok order := by
  cases ho : s.insertOrder with
  | ok order => exact ⟨order, rfl⟩
  | error e =>
    obtain ⟨a, b, hab, hb, -⟩ := insertOrder_error h ho
    exact absurd (hkeys a b hab) (by simp [hb])

/-! ## Insert and delete orders of a list of tables -/

variable {tables : List Metadata}

theorem deleteOrder_of_insertOrder (h : s.insertOrder = .ok order) :
    s.deleteOrder = .ok order.reverse := by
  rw [deleteOrder, h]
  rfl

/-- **Insert and delete orders are valid.** An order is found if all tables that others refer to
have a primary key. The insert order lists each kept table once, and behind the tables that it
refers to, except for those that depend on it in turn. The delete order is the reverse; without
cycles it lists each table before all that it refers to. -/
theorem insertOrder_valid (tables : List Metadata) :
    ((∀ a b, Refers (keptTables tables) a b → b.hasPrimaryKey = true) →
      ∃ order, (ofList tables).insertOrder = .ok order) ∧
    ∀ order, (ofList tables).insertOrder = .ok order →
      order.Perm ((keptTables tables).map (·.name)) ∧ order.Nodup ∧
      (∀ a b, Refers (keptTables tables) a b → ¬ DependsOn (keptTables tables) b a →
        [b.name, a.name].Sublist order) ∧
      (ofList tables).deleteOrder = .ok order.reverse ∧
      ((∀ t, ¬ DependsOn (keptTables tables) t t) → ∀ a b, Refers (keptTables tables) a b →
        [a.name, b.name].Sublist order.reverse) := by
  have hdistinct : (ofList tables).Distinct := distinct_ofList tables
  rw [← ofList_tables]
  refine ⟨exists_insertOrder hdistinct, fun order h => ?_⟩
  obtain ⟨hperm, hbefore⟩ := insertOrder_ok hdistinct h
  have hnodup : order.Nodup := hperm.nodup_iff.2 hdistinct.nodup_names
  refine ⟨hperm, hnodup, hbefore, deleteOrder_of_insertOrder h, fun hacyclic a b hab => ?_⟩
  have hba : [b.name, a.name].Sublist order :=
    hbefore a b hab fun hcycle => hacyclic a (.head hab hcycle)
  exact hba.reverse

/-- A table with the one-column primary key `id`, and with references to the tables of the given
names. -/
def keyedTable (name : String) (references : List String := []) : Metadata where
  name
  columns := []
  primaryKey := ["id"]
  foreignKeys := references.map fun r => ⟨none, [r], r, ["id"]⟩

/-- Tables of a shop: a customer and an order refer to each other, an item refers to itself and to
a table outside the list, and one name is there twice. -/
def shopTables : List Metadata :=
  [keyedTable "line" ["ORDER", "Item"], keyedTable "order" ["customer"],
    keyedTable "Customer" ["order"], keyedTable "item" ["ITEM", "brand"], keyedTable "LINE"]

theorem shopTables_insertOrder :
    ∃ order, (ofList shopTables).insertOrder = .ok order ∧
      order.Perm ["line", "order", "Customer", "item"] ∧ ["item", "line"].Sublist order ∧
      (ofList shopTables).deleteOrder = .ok order.reverse := by
  have hkept : keptTables shopTables = shopTables.take 4 := by decide +kernel
  obtain ⟨hexists, hvalid⟩ := insertOrder_valid shopTables
  rw [hkept] at hexists hvalid
  obtain ⟨order, ho⟩ := hexists fun a b hab =>
    (by decide +kernel : ∀ b ∈ shopTables.take 4, b.hasPrimaryKey = true) b hab.2.1
  obtain ⟨hperm, -, hbefore, hdelete, -⟩ := hvalid order ho
  refine ⟨order, ho, hperm, ?_, hdelete⟩
  refine hbefore (keyedTable "line" ["ORDER", "Item"]) (keyedTable "item" ["ITEM", "brand"])
    (by decide +kernel) fun hcycle => ?_
  -- An item refers to no other table of the list.
  obtain ⟨c, hc, -⟩ := Relation.TransGen.head'_iff.1 hcycle
  exact (by decide +kernel : ∀ c ∈ shopTables.take 4,
    ¬ Refers (shopTables.take 4) (keyedTable "item" ["ITEM", "brand"]) c) c hc.2.1 hc

/-! ## Tables that are in no order -/

theorem ofList_tables_of_nodup (h : (tables.map fun t => upperName t.name).Nodup) :
    (ofList tables).tables = tables := by
  have hfold : ∀ (ts : List Metadata) (s : TableSet),
      ((s.tables ++ ts).map fun t => upperName t.name).Nodup →
      (ts.foldl insert s).tables = s.tables ++ ts := by
    intro ts
    induction ts with
    | nil => simp
    | cons t ts ih =>
      intro s hs
      have hnew : upperName t.name ∉ s.tables.map fun u => upperName u.name := by
        rw [List.map_append, List.map_cons] at hs
        exact fun ht => List.disjoint_of_nodup_append hs ht List.mem_cons_self
      have hinsert : (s.insert t).tables = s.tables ++ [t] := by
        rw [insert_tables, if_neg hnew]
      rw [List.foldl_cons, ih _ (by rwa [hinsert, List.append_assoc]), hinsert, List.append_assoc]
      rfl
  exact hfold tables {} h

/-- All of the tables that a data set tells apart are in the order exactly where no two of them
have one name in upper case. Names of ASCII characters are such. -/
theorem insertOrder_lists_all_iff
    (hnames : tables.Pairwise fun a b => a.hasName b.name = false)
    (h : (ofList tables).insertOrder = .ok order) :
    (order.Perm (tables.map (·.name)) ↔ (tables.map fun t => upperName t.name).Nodup) ∧
      ((∀ t ∈ tables, ∀ c ∈ t.name.toList, isAscii c = true) →
        order.Perm (tables.map (·.name))) := by
  have hdistinct : (ofList tables).Distinct := distinct_ofList tables
  have hperm : order.Perm ((ofList tables).tables.map (·.name)) := (insertOrder_ok hdistinct h).1
  have hall : order.Perm (tables.map (·.name)) ↔ (tables.map fun t => upperName t.name).Nodup := by
    constructor
    · intro hlist
      have hupper := (hperm.symm.trans hlist).map upperName
      rw [List.map_map, List.map_map] at hupper
      exact hupper.nodup_iff.1 hdistinct
    · intro hnodup
      rwa [ofList_tables_of_nodup hnodup] at hperm
  refine ⟨hall, fun hascii => hall.2 ?_⟩
  rw [List.Nodup, List.pairwise_map]
  refine hnames.imp_of_mem fun {a b} ha hb hab hupper => ?_
  rw [Metadata.hasName, sameName_of_upperName_eq (hascii a ha) (hascii b hb) hupper] at hab
  cases hab

theorem shopTables_all_listed :
    ∃ order, (ofList (shopTables.take 4)).insertOrder = .ok order ∧
      order.Perm ["line", "order", "Customer", "item"] := by
  have hnodup : ((shopTables.take 4).map fun t => upperName t.name).Nodup := by decide +kernel
  obtain ⟨order, ho⟩ := exists_insertOrder (distinct_ofList (shopTables.take 4)) (by
    rw [ofList_tables_of_nodup hnodup]
    rintro a b ⟨-, hb, -⟩
    exact (by decide +kernel : ∀ b ∈ shopTables.take 4, b.hasPrimaryKey = true) b hb)
  exact ⟨order, ho, (insertOrder_lists_all_iff (by decide +kernel) ho).1.2 hnodup⟩

/-- Two tables whose names differ in the case of a letter that is not an ASCII letter. -/
def cafeTables : List Metadata := [keyedTable "café", keyedTable "CAFÉ"]

/-- A data set takes both tables, and the order lists only the first one. -/
theorem cafeTables_second_not_listed :
    (cafeTables.Pairwise fun a b => a.hasName b.name = false) ∧
      (∃ d, DataSet.ofTables (cafeTables.map Table.empty) = .ok d) ∧
      (ofList cafeTables).insertOrder = .ok ["café"] ∧
      ¬ ["café"].Perm (cafeTables.map (·.name)) := by
  have hnames : cafeTables.Pairwise fun a b => a.hasName b.name = false := by decide +kernel
  have haccepted : ∃ d, DataSet.ofTables (cafeTables.map Table.empty) = .ok d :=
    DataSet.exists_ofTables.2 (List.pairwise_map.2 hnames)
  refine ⟨hnames, haccepted, ?_, by decide +kernel⟩
  have hkept : keptTables cafeTables = [keyedTable "café"] := by decide +kernel
  have hdistinct : (ofList cafeTables).Distinct := distinct_ofList cafeTables
  have hnone : ∀ a b, ¬ Refers [keyedTable "café"] a b := by
    rintro a b ⟨ha, hb, hne, -⟩
    exact hne ((List.mem_singleton.1 hb).trans (List.mem_singleton.1 ha).symm)
  obtain ⟨order, ho⟩ := exists_insertOrder hdistinct (by
    rw [ofList_tables, hkept]
    exact fun a b hab => absurd hab (hnone a b))
  have hperm := (insertOrder_ok hdistinct ho).1
  rw [ofList_tables, hkept] at hperm
  rw [ho, List.perm_singleton.1 hperm]
  rfl

end TableSet

end TableDiff
