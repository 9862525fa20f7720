import Mathlib.Data.List.Pairwise
import TableDiff.DataSet

/-!
# Tables found by name

However a data set is built (`DataSet.Built`), its tables have pairwise different names
(`Built.distinct`), so looking up the name of one of its tables finds this table
(`table?_of_mem`). Adding a table keeps the names apart since the name must be new, and merging does
since tables of one name are put into one group.
-/

namespace TableDiff

open TableDiff.Text

/-- What stands in a list is the first element found by its own key, if no two elements share a
key. -/
theorem find?_of_pairwise {α : Type} {p : α → α → Bool} {xs : List α} {a : α}
    (h : xs.Pairwise fun x y => p x y = false) (hp : p a a = true) (ha : a ∈ xs) :
    xs.find? (fun x => p x a) = some a := by
  induction xs with
  | nil => cases ha
  | cons x xs ih =>
    obtain ⟨hx, hxs⟩ := List.pairwise_cons.1 h
    rcases List.mem_cons.1 ha with rfl | ha
    · simp [hp]
    · rw [List.find?_cons, hx a ha]
      exact ih hxs ha

namespace DataSet

/-- No two tables have the same name. -/
def DistinctNames (tables : List Table) : Prop :=
  tables.Pairwise fun a b => a.metadata.hasName b.metadata.name = false

variable {d d' : DataSet} {t u : Table} {ts : List Table}

/-! ## Adding tables -/

theorem add_eq_ok : d.add t = .ok d' ↔ d.contains t.name = false ∧ d' = ⟨d.tables ++ [t]⟩ := by
  unfold add
  cases d.contains t.name <;> simp [eq_comm]

theorem distinctNames_add (hd : DistinctNames d.tables) (h : d.add t = .ok d') :
    DistinctNames d'.tables := by
  obtain ⟨hnew, rfl⟩ := add_eq_ok.1 h
  refine List.pairwise_append.2 ⟨hd, List.pairwise_singleton _ _, fun a ha b hb => ?_⟩
  rw [List.mem_singleton.1 hb]
  exact contains_eq_false.1 hnew a ha

theorem distinctNames_addAll (hd : DistinctNames d.tables) (h : d.addAll ts = .ok d') :
    DistinctNames d'.tables := by
  induction ts generalizing d with
  | nil =>
    cases h
    exact hd
  | cons t ts ih =>
    obtain ⟨d₁, hadd, hrest⟩ := bind_eq_ok.1 h
    exact ih (distinctNames_add hd hadd) hrest

/-! ## Merging -/

/-- The names of groups are those of their first tables. -/
def firsts (gs : List Group) : List Table := gs.map (·.first)

theorem firsts_insertGroup (t : Table) (gs : List Group) : firsts (insertGroup t gs) =
    if (firsts gs).any (·.metadata.hasName t.name) then firsts gs else firsts gs ++ [t] := by
  induction gs with
  | nil => rfl
  | cons g gs ih =>
    unfold insertGroup
    cases hg : g.first.metadata.hasName t.name with
    | true => simp [firsts, hg]
    | false =>
      rw [if_neg Bool.false_ne_true]
      show g.first :: firsts (insertGroup t gs) = _
      rw [ih]
      show _ = if (g.first :: firsts gs).any _ = true then g.first :: firsts gs else _
      rw [List.any_cons, hg, Bool.false_or]
      split
      · rfl
      · rfl

theorem distinctNames_insertGroup {gs : List Group} (h : DistinctNames (firsts gs)) (t : Table) :
    DistinctNames (firsts (insertGroup t gs)) := by
  rw [firsts_insertGroup]
  split
  · exact h
  · rename_i hnew
    refine List.pairwise_append.2 ⟨h, List.pairwise_singleton _ _, fun a ha b hb => ?_⟩
    rw [List.mem_singleton.1 hb]
    cases hname : a.metadata.hasName t.metadata.name with
    | false => rfl
    | true => exact absurd (List.any_eq_true.2 ⟨a, ha, hname⟩) hnew

theorem distinctNames_groupByName (tables : List Table) :
    DistinctNames (firsts (groupByName tables)) := by
  have hfold : ∀ gs : List Group, DistinctNames (firsts gs) →
      DistinctNames (firsts (tables.foldl (fun gs t => insertGroup t gs) gs)) := by
    induction tables with
    | nil => exact fun gs h => h
    | cons t tables ih => exact fun gs h => ih _ (distinctNames_insertGroup h t)
  exact hfold [] .nil

theorem metadata_concat (h : Table.concat (t :: ts) = .ok u) : u.metadata = t.metadata := by
  simp only [Table.concat] at h
  split at h
  · cases h
  · cases h
    rfl

/-- A merged table has the metadata of the first table of its group. -/
theorem metadata_merge {policy : MergePolicy} {g : Group} (h : g.merge policy = .ok t) :
    t.metadata = g.first.metadata := by
  unfold Group.merge at h
  split at h
  · cases h
    rfl
  · split at h
    · cases h
      rfl
    · exact metadata_concat h

theorem distinctNames_merge {policy : MergePolicy} {datasets : List DataSet}
    (h : merge policy datasets = .ok d) : DistinctNames d.tables := by
  obtain ⟨tables, htables, hd⟩ := bind_eq_ok.1 h
  cases pure_eq_ok.1 hd
  have hnames := mapM_map_eq (g := fun g => g.first.metadata) (h := Table.metadata)
    (fun _ _ => metadata_merge) htables
  have hgroups := distinctNames_groupByName (datasets.flatMap (·.tables))
  have hmap : ∀ ts : List Table, DistinctNames ts ↔
      (ts.map (·.metadata)).Pairwise fun a b => a.hasName b.name = false := by
    intro ts
    rw [List.pairwise_map]
    rfl
  rw [hmap, firsts, List.map_map] at hgroups
  rw [hmap, hnames]
  exact hgroups

/-! ## Data sets built by these operations -/

/-- Data sets that are made of tables, by adding tables and by merging. -/
inductive Built : DataSet → Prop
  | ofTables {ts : List Table} {d : DataSet} (h : ofTables ts = .ok d) : Built d
  | add {t : Table} {d d' : DataSet} (hd : Built d) (h : d.add t = .ok d') : Built d'
  | merge {policy : MergePolicy} {datasets : List DataSet} {d : DataSet}
      (hds : ∀ x ∈ datasets, Built x) (h : merge policy datasets = .ok d) : Built d

/-- **No two tables of a data set have the same name.** -/
theorem Built.distinct (h : d.Built) : DistinctNames d.tables := by
  induction h with
  | ofTables h => exact distinctNames_addAll .nil h
  | add _ h ih => exact distinctNames_add ih h
  | merge _ h => exact distinctNames_merge h

/-- Looking up the name of a table finds this table. -/
theorem table?_of_mem (hd : DistinctNames d.tables) (ht : t ∈ d.tables) :
    d.table? t.name = some t :=
  find?_of_pairwise (p := fun a b : Table => a.metadata.hasName b.metadata.name) hd
    (sameName_refl t.metadata.name) ht

end DataSet

end TableDiff
