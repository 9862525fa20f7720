import Mathlib.Data.List.Perm.Basic
import TableDiff.Proofs.Dependency.Failure
import TableDiff.Proofs.Search.Sorted

/-!
# Tables that are in order already

Tables that are listed behind all that they refer to are in insert order as they stand
(`insertOrder_of_sorted`). Without cycles every insert order is such a list, so ordering the tables
again in the order that was found changes nothing (`insertOrder_fixed`). What another order could
change is when a table is looked at, never whether its references can be followed.
-/

namespace TableDiff

/-- A list in which every table stands before those that it refers to has no cycle. -/
theorem not_dependsOn_self {tables : List Metadata}
    (h : ∀ a b, Refers tables a b → tables.idxOf a < tables.idxOf b) (t : Metadata) :
    ¬ DependsOn tables t t := by
  have hbefore : ∀ b, DependsOn tables t b → tables.idxOf t < tables.idxOf b := by
    intro b htb
    induction htb with
    | single hab => exact h _ _ hab
    | tail _ hbc ih => exact ih.trans (h _ _ hbc)
  exact fun hcycle => lt_irrefl _ (hbefore t hcycle)

theorem refers_perm {tables tables' : List Metadata} (h : tables.Perm tables') {a b : Metadata} :
    Refers tables a b ↔ Refers tables' a b := by
  unfold Refers
  rw [h.mem_iff, h.mem_iff]

namespace TableSet

variable {s : TableSet} {tables arranged : List Metadata} {order : List String}

/-- A search under any limit finds the order, if it succeeds. -/
theorem insertOrder_of_search (h : s.Distinct) {limit : Nat} {w : Unit}
    (hs : Search.search s.visitor limit (s.tables.map (·.name)) () = some (.ok order, w)) :
    s.insertOrder = .ok order := by
  obtain ⟨out, w', hends⟩ := search_ends h
  rw [← Search.search_unique hs hends] at hends
  exact insertOrder_eq_ok.2 ⟨w, hends⟩

/-! ## Lists of tables in order -/

theorem sorts_of_sorted (h : s.Distinct)
    (hkeys : ∀ a b, Refers s.tables a b → b.hasPrimaryKey = true)
    (hsorted : ∀ a b, Refers s.tables a b → [b.name, a.name].Sublist (s.tables.map (·.name))) :
    s.visitor.Sorts (s.tables.map (·.name)) where
  shouldVisit _ _ w := ⟨w, rfl⟩
  nodeAdded _ _ w := ⟨w, rfl⟩
  edgesFrom n hn w := by
    obtain ⟨t, ht, rfl⟩ := List.mem_map.1 hn
    obtain ⟨edges, hedges⟩ := exists_edgesFrom h hkeys t.name
    refine ⟨edges, w, congrArg (·, w) hedges, fun e he => ?_⟩
    obtain ⟨a, b, hab, hname, rfl⟩ := (mem_edgesFrom h hedges e).1 he
    rw [← h.eq hab.1 ht hname]
    exact hsorted a b hab

/-- Tables that are listed behind all that they refer to are in insert order. -/
theorem insertOrder_of_sorted (h : s.Distinct)
    (hkeys : ∀ a b, Refers s.tables a b → b.hasPrimaryKey = true)
    (hsorted : ∀ a b, Refers s.tables a b → [b.name, a.name].Sublist (s.tables.map (·.name))) :
    s.insertOrder = .ok (s.tables.map (·.name)) := by
  obtain ⟨limit, w, hs⟩ :=
    Search.search_of_sorted (sorts_of_sorted h hkeys hsorted) h.nodup_names ()
  exact insertOrder_of_search h hs

/-! ## Tables in the order that was found -/

theorem exists_arranged (h : order.Perm (tables.map (·.name))) :
    ∃ arranged : List Metadata, arranged.Perm tables ∧ arranged.map (·.name) = order := by
  have hnames : List.Forall₂ (fun n (t : Metadata) => t.name = n) (tables.map (·.name)) tables := by
    rw [List.forall₂_map_left_iff, List.forall₂_same]
    exact fun _ _ => rfl
  obtain ⟨arranged, horder, hperm⟩ := List.perm_comp_forall₂ h hnames
  refine ⟨arranged, hperm, ?_⟩
  rw [← List.forall₂_eq_eq_eq, List.forall₂_map_left_iff]
  exact horder.flip

theorem ofList_tables_of_perm (h : arranged.Perm (keptTables tables)) :
    (ofList arranged).tables = arranged := by
  refine ofList_tables_of_nodup ((h.map _).nodup_iff.2 ?_)
  rw [← ofList_tables]
  exact distinct_ofList tables

/-- **Insert order is a fixed point on acyclic sets.** Where tables have an insert order and no
kept table depends on itself, the kept tables can be put in this order, and then their insert order
is found and is the same. -/
theorem insertOrder_fixed (tables : List Metadata) (order : List String)
    (ho : (ofList tables).insertOrder = .ok order)
    (hacyclic : ∀ t, ¬ DependsOn (keptTables tables) t t) :
    (∃ arranged : List Metadata, arranged.Perm (keptTables tables) ∧
        arranged.map (·.name) = order) ∧
      ∀ arranged : List Metadata, arranged.Perm (keptTables tables) →
        arranged.map (·.name) = order → (ofList arranged).insertOrder = .ok order := by
  have h : (ofList tables).Distinct := distinct_ofList tables
  obtain ⟨hperm, hbehind⟩ := insertOrder_ok h ho
  have hkeys : ∀ a b, Refers (ofList tables).tables a b → b.hasPrimaryKey = true :=
    fun a b hab => hasPrimaryKey_of_insertOrder h ho hab
  rw [ofList_tables] at hperm hbehind hkeys
  refine ⟨exists_arranged hperm, ?_⟩
  rintro arranged harranged rfl
  have htables : (ofList arranged).tables = arranged := ofList_tables_of_perm harranged
  have hsorted := insertOrder_of_sorted (distinct_ofList arranged)
  rw [htables] at hsorted
  refine hsorted (fun a b hab => hkeys a b ((refers_perm harranged).1 hab)) fun a b hab => ?_
  have hab := (refers_perm harranged).1 hab
  exact hbehind a b hab fun hcycle => hacyclic a (.head hab hcycle)

/-- Tables without a cycle, in an order in which none of them can be inserted at first. -/
def catalogTables : List Metadata :=
  [keyedTable "line" ["ORDER", "Item"], keyedTable "order" ["customer"],
    keyedTable "Customer", keyedTable "item" ["ITEM", "brand"], keyedTable "LINE" ["line"]]

theorem catalogTables_order_fixed :
    ∃ (order : List String) (arranged : List Metadata),
      (ofList catalogTables).insertOrder = .ok order ∧
      arranged.Perm (catalogTables.take 4) ∧ arranged.map (·.name) = order ∧
      (ofList arranged).insertOrder = .ok order := by
  have hkept : keptTables catalogTables = catalogTables.take 4 := by decide +kernel
  obtain ⟨order, ho⟩ : ∃ order, (ofList catalogTables).insertOrder = .ok order := by
    refine exists_insertOrder (distinct_ofList catalogTables) fun a b hab => ?_
    rw [ofList_tables, hkept] at hab
    exact (by decide +kernel : ∀ b ∈ catalogTables.take 4, b.hasPrimaryKey = true) b hab.2.1
  have hacyclic : ∀ t, ¬ DependsOn (keptTables catalogTables) t t := by
    rw [hkept]
    refine not_dependsOn_self fun a b hab => ?_
    have hlisted : ∀ a ∈ catalogTables.take 4, ∀ b ∈ catalogTables.take 4,
        Refers (catalogTables.take 4) a b →
          (catalogTables.take 4).idxOf a < (catalogTables.take 4).idxOf b := by decide +kernel
    exact hlisted a hab.1 b hab.2.1 hab
  obtain ⟨⟨arranged, hperm, hnames⟩, hfixed⟩ := insertOrder_fixed catalogTables order ho hacyclic
  exact ⟨order, arranged, ho, hkept ▸ hperm, hnames, hfixed arranged hperm hnames⟩

end TableSet

end TableDiff
