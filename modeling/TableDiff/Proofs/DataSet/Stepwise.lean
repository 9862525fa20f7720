import TableDiff.Proofs.DataSet.Merging

/-!
# Merging in steps

Data sets may be merged a few at a time: the first of them merged, and the result merged with the
rest, is all of them merged at once (`merge_in_steps`).

Both ways go through the later tables in the same order. They differ in the groups that they start
from, where one has the tables that the other has merged already (`Shortened`); each later table
keeps the groups in this relation (`forall₂_insertGroup`), and groups so related become the same
table (`Shortened.merge_iff`).
-/

namespace TableDiff.DataSet

open TableDiff.Text

variable {policy : MergePolicy} {g g' : Group} {gs gs' : List Group} {t u w : Table}
  {ts us : List Table} {d : DataSet}

/-! ## One group -/

theorem concat_append (h : Table.concat (t :: ts) = .ok u) (us : List Table) :
    Table.concat (u :: us) = .ok w ↔ Table.concat (t :: (ts ++ us)) = .ok w := by
  obtain ⟨hcolumns, hm, -⟩ := Table.concat_eq_ok.1 h
  have hcells : u.cellsByName t.metadata.columnNames =
      (t :: ts).flatMap (Table.cellsByName t.metadata.columnNames) := by
    refine Table.cellsByName_of_concat h fun n hn => ?_
    rw [← hm] at hn
    obtain ⟨c, hc, rfl⟩ := List.mem_map.1 hn
    exact Table.hasColumn_self hc
  rw [Table.concat_eq_ok, Table.concat_eq_ok, Table.columns, hm, List.forall_mem_append,
    and_iff_right hcolumns, List.flatMap_cons, hcells, ← List.cons_append, List.flatMap_append]
  rfl

/-- Where the first tables of a group are merged already, the rest of the group becomes the table
that the whole group becomes. -/
theorem merge_append (h : Group.merge policy ⟨t, ts⟩ = .ok u) :
    Group.merge policy ⟨u, us⟩ = .ok w ↔ Group.merge policy ⟨t, ts ++ us⟩ = .ok w := by
  cases policy with
  | firstWins =>
    cases h
    rfl
  | combine =>
    rw [merge_combine_eq] at h
    rw [merge_combine_eq, merge_combine_eq]
    by_cases hts : ts = []
    · rw [if_pos hts] at h
      cases h
      rw [hts, List.nil_append]
    · rw [if_neg hts] at h
      by_cases hus : us = []
      · rw [if_pos hus, hus, List.append_nil, if_neg hts, h]
      · rw [if_neg hus, if_neg (List.append_ne_nil_of_left_ne_nil hts us)]
        exact concat_append h us

theorem exists_merge_of_append (h : Group.merge policy ⟨t, ts ++ us⟩ = .ok w) :
    ∃ u, Group.merge policy ⟨t, ts⟩ = .ok u := by
  cases policy with
  | firstWins => exact ⟨t, rfl⟩
  | combine =>
    cases hu : Group.merge .combine ⟨t, ts⟩ with
    | ok u => exact ⟨u, rfl⟩
    | error e =>
      -- the column that is missing among the first tables is missing among all
      obtain ⟨s, c, hlacking, -⟩ := exists_lacking_of_merge hu
      exact absurd { hlacking with table := List.mem_append_left us hlacking.table }
        (not_lacking_of_merge h s c)

/-! ## Groups in step -/

/-- The second group is the first with some of its tables merged already. -/
def Shortened (policy : MergePolicy) (g g' : Group) : Prop :=
  ∃ ts, g.others = ts ++ g'.others ∧ Group.merge policy ⟨g.first, ts⟩ = .ok g'.first

theorem Shortened.merge_iff (h : Shortened policy g g') :
    g'.merge policy = .ok w ↔ g.merge policy = .ok w := by
  obtain ⟨ts, hothers, hfirst⟩ := h
  cases g with
  | mk t others =>
    cases hothers
    exact merge_append hfirst

theorem Shortened.hasName (h : Shortened policy g g') (name : String) :
    g'.first.metadata.hasName name = g.first.metadata.hasName name := by
  obtain ⟨ts, -, hfirst⟩ := h
  rw [metadata_merge hfirst]

theorem Shortened.add (h : Shortened policy g g') (t : Table) :
    Shortened policy { g with others := g.others ++ [t] }
      { g' with others := g'.others ++ [t] } := by
  obtain ⟨ts, hothers, hfirst⟩ := h
  exact ⟨ts, by rw [hothers, List.append_assoc], hfirst⟩

theorem shortened_new (t : Table) : Shortened policy ⟨t, []⟩ ⟨t, []⟩ := by
  refine ⟨[], rfl, ?_⟩
  cases policy <;> rfl

theorem shortened_of_merge (h : g.merge policy = .ok u) : Shortened policy g ⟨u, []⟩ :=
  ⟨g.others, (List.append_nil _).symm, h⟩

/-- Both lists of groups take a further table in the same place. -/
theorem forall₂_insertGroup (h : List.Forall₂ (Shortened policy) gs gs') (t : Table) :
    List.Forall₂ (Shortened policy) (insertGroup t gs) (insertGroup t gs') := by
  induction h with
  | nil => exact .cons (shortened_new t) .nil
  | @cons g g' gs gs' hg hgs ih =>
    rw [insertGroup, insertGroup, hg.hasName]
    split
    · exact .cons (hg.add t) hgs
    · exact .cons hg ih

theorem forall₂_foldl_insertGroup (h : List.Forall₂ (Shortened policy) gs gs') (ts : List Table) :
    List.Forall₂ (Shortened policy) (ts.foldl (fun gs t => insertGroup t gs) gs)
      (ts.foldl (fun gs t => insertGroup t gs) gs') := by
  induction ts generalizing gs gs' with
  | nil => exact h
  | cons t ts ih => exact ih (forall₂_insertGroup h t)

/-- Groups in step become the same tables. -/
theorem forall₂_merge_iff (h : List.Forall₂ (Shortened policy) gs gs') (tables : List Table) :
    List.Forall₂ (fun g u => g.merge policy = .ok u) gs' tables ↔
      List.Forall₂ (fun g u => g.merge policy = .ok u) gs tables := by
  induction h generalizing tables with
  | nil => rfl
  | cons hg _ ih => simp only [List.forall₂_cons_left_iff, hg.merge_iff, ih]

/-- A group keeps its tables when further tables are grouped. -/
theorem exists_grown (hg : g ∈ gs) (ts : List Table) :
    ∃ us, ⟨g.first, g.others ++ us⟩ ∈ ts.foldl (fun gs t => insertGroup t gs) gs := by
  induction ts generalizing g gs with
  | nil =>
    refine ⟨[], ?_⟩
    rw [List.append_nil]
    exact hg
  | cons t ts ih =>
    have hstep : g ∈ insertGroup t gs ∨ ⟨g.first, g.others ++ [t]⟩ ∈ insertGroup t gs := by
      clear ih
      induction gs with
      | nil => cases hg
      | cons g₁ gs ih =>
        rw [insertGroup]
        split
        · rcases List.mem_cons.1 hg with rfl | hg
          · exact .inr List.mem_cons_self
          · exact .inl (List.mem_cons_of_mem _ hg)
        · rcases List.mem_cons.1 hg with rfl | hg
          · exact .inl List.mem_cons_self
          · exact (ih hg).imp (List.mem_cons_of_mem _) (List.mem_cons_of_mem _)
    rcases hstep with hg | hg
    · exact ih hg
    · obtain ⟨us, hus⟩ := ih hg
      refine ⟨t :: us, ?_⟩
      rw [List.append_cons]
      exact hus

theorem groupByName_of_distinct (h : DistinctNames ts) :
    groupByName ts = ts.map fun t => ⟨t, []⟩ := by
  induction ts with
  | nil => rfl
  | cons t ts ih =>
    obtain ⟨ht, hts⟩ := List.pairwise_cons.1 h
    have hothers : ts.filter (fun u => t.metadata.hasName u.name = false) = ts :=
      List.filter_eq_self.2 fun u hu => decide_eq_true (ht u hu)
    have hnone : namesakes t ts = [] :=
      List.filter_eq_nil_iff.2 fun u hu => by
        rw [show t.metadata.hasName u.name = false from ht u hu]
        exact Bool.false_ne_true
    rw [groupByName_cons, hothers, hnone, ih hts]
    rfl

/-! ## Data sets -/

variable {datasets before after : List DataSet}

theorem merge_eq_ok : merge policy datasets = .ok d ↔
    List.Forall₂ (fun g u => g.merge policy = .ok u) (groupByName (allTables datasets))
      d.tables := by
  rw [← mapM_eq_ok_iff_forall₂]
  simp only [merge, bind_eq_ok, pure_eq_ok, allTables]
  constructor
  · rintro ⟨tables, h, rfl⟩
    exact h
  · intro h
    exact ⟨d.tables, h, rfl⟩

theorem merge_cons_of_merge (h : merge policy before = .ok d) {d' : DataSet} :
    merge policy (d :: after) = .ok d' ↔ merge policy (before ++ after) = .ok d' := by
  have hmerged : List.Forall₂ (Shortened policy) (groupByName (allTables before))
      (d.tables.map fun t => ⟨t, []⟩) := by
    rw [List.forall₂_map_right_iff]
    exact (merge_eq_ok.1 h).imp fun _ _ => shortened_of_merge
  rw [← groupByName_of_distinct (distinctNames_merge h)] at hmerged
  have hgroups := forall₂_foldl_insertGroup hmerged (allTables after)
  rw [groupByName, groupByName, ← List.foldl_append, ← List.foldl_append] at hgroups
  rw [merge_eq_ok, merge_eq_ok, allTables, allTables, List.flatMap_cons, List.flatMap_append]
  exact forall₂_merge_iff hgroups d'.tables

theorem exists_merge_of_merge_append (h : merge policy (before ++ after) = .ok d) :
    ∃ d', merge policy before = .ok d' := by
  have hall : ∀ g ∈ groupByName (allTables before), ∃ u, g.merge policy = .ok u := by
    intro g hg
    obtain ⟨us, hus⟩ := exists_grown hg (allTables after)
    rw [groupByName, ← List.foldl_append, allTables, allTables, ← List.flatMap_append] at hus
    obtain ⟨w, -, hw⟩ := (mapM_ok_results (mapM_eq_ok_iff_forall₂.2 (merge_eq_ok.1 h))).1 _ hus
    exact exists_merge_of_append hw
  cases hd : merge policy before with
  | ok d' => exact ⟨d', rfl⟩
  | error e =>
    rcases bind_eq_error.1 hd with he | ⟨tables, -, he⟩
    · obtain ⟨g, hg, he⟩ := mapM_eq_error he
      obtain ⟨u, hu⟩ := hall g hg
      rw [hu] at he
      cases he
    · cases he

/-- **Merging in steps is merging at once.** -/
theorem merge_in_steps (policy : MergePolicy) (datasets : List DataSet) (k : Nat) (d : DataSet) :
    (do merge policy ((← merge policy (datasets.take k)) :: datasets.drop k)) = .ok d ↔
      merge policy datasets = .ok d := by
  rw [bind_eq_ok]
  constructor
  · rintro ⟨first, hfirst, h⟩
    rw [merge_cons_of_merge hfirst, List.take_append_drop] at h
    exact h
  · intro h
    rw [← List.take_append_drop k datasets] at h
    obtain ⟨first, hfirst⟩ := exists_merge_of_merge_append h
    exact ⟨first, hfirst, (merge_cons_of_merge hfirst).2 h⟩

end TableDiff.DataSet
