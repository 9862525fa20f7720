import TableDiff.Proofs.Comparison.DataSets
import TableDiff.Proofs.Comparison.OwnColumns
import TableDiff.Proofs.DataSet.Lookup
import TableDiff.Proofs.Table.Concatenation

/-!
# Merged data sets

A data set that is made of tables, changed in place by adding further ones, and merged with others
has tables of pairwise different names at all times: it is `Built`, as a table that is refused
leaves it as it was (`run_addTable`).

Merging puts the tables of all data sets into one group for each name, headed by the first table of
the name, and each group holds all tables of its name in order (`groupByName_eq`). So the merged
data set has the first tables themselves, or each with the rows of all its namesakes (`Combines`).
The grouping goes through the tables once; the proofs follow it by taking the first table and its
namesakes out of the list (`byName_induction`).
-/

namespace TableDiff.DataSet

open TableDiff.Text

variable {d d' : DataSet} {t u : Table} {ts : List Table} {g : Group} {name : String}

/-! ## Groups of one name -/

/-- The tables of a list that have the name of a table. -/
def namesakes (t : Table) (ts : List Table) : List Table :=
  ts.filter fun u => t.metadata.hasName u.name

theorem namesakes_cons_self (t : Table) (ts : List Table) :
    namesakes t (t :: ts) = t :: namesakes t ts := by
  have ht : t.metadata.hasName t.name = true := sameName_refl t.name
  simp [namesakes, ht]

theorem namesakes_cons_of_ne (h : t.metadata.hasName u.name = false) (ts : List Table) :
    namesakes t (u :: ts) = namesakes t ts := by
  simp [namesakes, h]

/-- The first table of each name. -/
def firstOccurrences (ts : List Table) : List Table :=
  ts.eraseDupsBy fun u t => t.metadata.hasName u.name

/-- Induction on lists of tables that goes on with the tables of other names than the first. -/
@[elab_as_elim]
theorem byName_induction {motive : List Table → Prop} (nil : motive [])
    (cons : ∀ t ts, motive (ts.filter fun u => t.metadata.hasName u.name = false) →
      motive (t :: ts)) (ts : List Table) : motive ts :=
  match ts with
  | [] => nil
  | t :: ts => cons t ts (byName_induction nil cons _)
termination_by ts.length
decreasing_by exact Nat.lt_succ_of_le (List.length_filter_le _ ts)

/-- A group takes the later tables of its name, and the groups behind it get the others. -/
theorem foldl_insertGroup_cons (g : Group) (gs : List Group) (ts : List Table) :
    ts.foldl (fun gs t => insertGroup t gs) (g :: gs) =
      { g with others := g.others ++ namesakes g.first ts } ::
        (ts.filter fun u => g.first.metadata.hasName u.name = false).foldl
          (fun gs t => insertGroup t gs) gs := by
  -- by induction on the tables, with any groups so far
  induction ts generalizing g gs with
  | nil => simp [namesakes]
  | cons t ts ih =>
    rw [List.foldl_cons, insertGroup]
    cases hname : g.first.metadata.hasName t.name with
    | true => simp [ih, namesakes, hname]
    | false => simp [ih, namesakes, hname]

theorem groupByName_cons (t : Table) (ts : List Table) : groupByName (t :: ts) =
    ⟨t, namesakes t ts⟩ :: groupByName (ts.filter fun u => t.metadata.hasName u.name = false) :=
  foldl_insertGroup_cons ⟨t, []⟩ [] ts

theorem firstOccurrences_cons (t : Table) (ts : List Table) : firstOccurrences (t :: ts) =
    t :: firstOccurrences (ts.filter fun u => t.metadata.hasName u.name = false) :=
  List.eraseDupsBy_cons

/-- Tables that a third one tells apart by name have no namesakes in common. -/
theorem namesakes_filter (h : t.metadata.hasName u.name = false) (ts : List Table) :
    namesakes u (ts.filter fun s => t.metadata.hasName s.name = false) = namesakes u ts := by
  rw [namesakes, List.filter_filter]
  refine List.filter_congr fun s _ => ?_
  cases hu : u.metadata.hasName s.name with
  | false => rfl
  | true =>
    have hs : t.metadata.hasName s.name = false := by
      rw [← h]
      exact (sameName_congr hu t.name).symm
    simp [hs]

theorem namesakes_cons_of_mem
    (hu : u ∈ ts.filter fun s => t.metadata.hasName s.name = false) :
    namesakes u (ts.filter fun s => t.metadata.hasName s.name = false) =
      namesakes u (t :: ts) := by
  have hother : t.metadata.hasName u.name = false := of_decide_eq_true (List.mem_filter.1 hu).2
  rw [namesakes_filter hother, namesakes_cons_of_ne ((sameName_symm u.name t.name).trans hother)]

/-- The first table of a name stands before its namesakes. -/
theorem namesakes_eq_cons (ht : t ∈ firstOccurrences ts) :
    t ∈ ts ∧ namesakes t ts = t :: (namesakes t ts).tail := by
  induction ts using byName_induction with
  | nil => cases ht
  | cons u ts ih =>
    rw [firstOccurrences_cons] at ht
    rcases List.mem_cons.1 ht with rfl | ht
    · rw [namesakes_cons_self]
      exact ⟨List.mem_cons_self, rfl⟩
    · obtain ⟨hmem, hcons⟩ := ih ht
      rw [namesakes_cons_of_mem hmem] at hcons
      exact ⟨List.mem_cons_of_mem u (List.mem_filter.1 hmem).1, hcons⟩

/-- The group of a name: the first table and its later namesakes. -/
def groupOf (ts : List Table) (t : Table) : Group := ⟨t, (namesakes t ts).tail⟩

/-- **There is one group for each name**, in order of first occurrence, with all tables of the
name. -/
theorem groupByName_eq (ts : List Table) :
    groupByName ts = (firstOccurrences ts).map (groupOf ts) := by
  induction ts using byName_induction with
  | nil => rfl
  | cons t ts ih =>
    rw [groupByName_cons, firstOccurrences_cons, List.map_cons, ih, groupOf, namesakes_cons_self,
      List.tail_cons]
    -- the groups of the other names are the same without the tables of the first name
    refine congrArg _ (List.map_congr_left fun u hu => ?_)
    rw [groupOf, groupOf, namesakes_cons_of_mem (namesakes_eq_cons hu).1]

/-! ## Merged tables -/

/-- A table has the rows of some tables one after another, with the metadata of the first of them
and each cell from the column of its name. A single table is kept as it is, also where several of
its columns have one name. -/
structure Combines (parts : List Table) (u : Table) : Prop where
  metadata : parts.head?.map (·.metadata) = some u.metadata
  byName : ∀ name, u.HasColumn name →
    u.rows.map (u.cell? · name) = parts.flatMap fun s => s.rows.map (s.cell? · name)
  cells : 1 < parts.length ∨ DistinctColumns u →
    u.rows.map (·.map some) = parts.flatMap (Table.cellsByName u.metadata.columnNames)
  single : ∀ t, parts = [t] → u = t

theorem cellsByName_columnNames (hd : DistinctColumns t) :
    t.cellsByName t.metadata.columnNames = t.rows.map (·.map some) := by
  refine List.map_congr_left fun row hrow => List.ext_getElem? fun i => ?_
  have hwidth : row.length = t.columns.length := t.width_eq row hrow
  rw [List.getElem?_map, Metadata.columnNames, List.getElem?_map, List.getElem?_map]
  show (t.columns[i]?.map Column.name).map (t.cell? row) = row[i]?.map some
  cases hc : t.columns[i]? with
  | none =>
    rw [List.getElem?_eq_none_iff, ← hwidth] at hc
    rw [List.getElem?_eq_none hc]
    rfl
  | some c =>
    have hlt := (List.getElem?_eq_some_iff.1 hc).1
    have hp : (c, i) ∈ t.columns.zipIdx := List.mem_zipIdx_iff_getElem?.2 hc
    have hindex : t.metadata.columnIndex? c.name = some i :=
      (findIdx?_eq_counterpart? t c.name).trans (congrArg _ (counterpart?_self hd hp))
    rw [← hwidth] at hlt
    rw [List.getElem?_eq_getElem hlt, Option.map_some, Option.map_some, Table.cell?, hindex,
      Option.bind_some, List.getElem?_eq_getElem hlt, Option.map_some]

theorem combines_single (t : Table) : Combines [t] t where
  metadata := rfl
  byName name _ := by simp
  cells h := by
    rw [List.flatMap_singleton]
    exact (cellsByName_columnNames (h.resolve_left (lt_irrefl 1))).symm
  single _ h := (List.cons.inj h).1

theorem combines_concat (hne : ts ≠ []) (h : Table.concat (t :: ts) = .ok u) :
    Combines (t :: ts) u := by
  obtain ⟨-, hm, hrows⟩ := Table.concat_eq_ok.1 h
  exact
    { metadata := congrArg some hm.symm
      byName := fun name hname => Table.cell?_of_concat h hname
      cells := fun _ => hm ▸ hrows
      single := fun s hs => absurd (List.cons.inj hs).2 hne }

theorem merge_combine_eq (g : Group) : g.merge .combine =
    if g.others = [] then .ok g.first else Table.concat (g.first :: g.others) := by
  simp [Group.merge]

theorem combines_merge (h : g.merge .combine = .ok u) : Combines (g.first :: g.others) u := by
  rw [merge_combine_eq] at h
  split at h
  next hsingle =>
    cases h
    rw [hsingle]
    exact combines_single g.first
  next hne => exact combines_concat hne h

/-- A column of the first table by whose name a later table has none. -/
structure Lacking (first : Table) (others : List Table) (s : Table) (c : Column) : Prop where
  table : s ∈ others
  column : c ∈ first.columns
  missing : ¬ s.HasColumn c.name

theorem exists_lacking_of_merge {e : DataSetError} (h : g.merge .combine = .error e) :
    ∃ s c, Lacking g.first g.others s c ∧ e = .noSuchColumn s.name c.name := by
  rw [merge_combine_eq] at h
  split at h
  · cases h
  · obtain ⟨s, hs, c, hc, hmissing, he⟩ := Table.concat_eq_error h
    exact ⟨s, c, ⟨hs, hc, hmissing⟩, he⟩

theorem not_lacking_of_merge (h : g.merge .combine = .ok u) (s : Table) (c : Column) :
    ¬ Lacking g.first g.others s c := by
  rintro ⟨hs, hc, hmissing⟩
  rw [merge_combine_eq, if_neg (List.ne_nil_of_mem hs)] at h
  exact hmissing ((Table.concat_eq_ok.1 h).1 s hs c hc)

/-! ## Merged data sets -/

/-- The tables of several data sets in turn. -/
def allTables (datasets : List DataSet) : List Table := datasets.flatMap (·.tables)

variable {datasets : List DataSet}

theorem merge_eq (policy : MergePolicy) (datasets : List DataSet) : merge policy datasets =
    ((firstOccurrences (allTables datasets)).mapM fun t =>
      (groupOf (allTables datasets) t).merge policy).map DataSet.mk := by
  unfold merge
  rw [← allTables, groupByName_eq, List.mapM_map]
  rfl

theorem merge_firstWins (datasets : List DataSet) :
    merge .firstWins datasets = .ok ⟨firstOccurrences (allTables datasets)⟩ := by
  rw [merge_eq, map_eq_ok]
  exact ⟨_, List.mapM_pure, congrArg _ (List.map_id _)⟩

theorem merge_combine_ok (h : merge .combine datasets = .ok d) :
    List.Forall₂ (fun first u => Combines (namesakes first (allTables datasets)) u)
      (firstOccurrences (allTables datasets)) d.tables := by
  rw [merge_eq, map_eq_ok] at h
  obtain ⟨tables, htables, rfl⟩ := h
  have hmerged := (List.forall₂_and_left _ _).2
    ⟨fun t ht => (namesakes_eq_cons ht).2, mapM_eq_ok_iff_forall₂.1 htables⟩
  refine hmerged.imp fun t u ⟨hcons, hu⟩ => ?_
  rw [hcons]
  exact combines_merge hu

theorem merge_combine_error {e : DataSetError} (h : merge .combine datasets = .error e) :
    ∃ first ∈ firstOccurrences (allTables datasets), ∃ s c,
      Lacking first (namesakes first (allTables datasets)).tail s c ∧
        e = .noSuchColumn s.name c.name := by
  rw [merge_eq, map_eq_error] at h
  obtain ⟨t, ht, h⟩ := mapM_eq_error h
  exact ⟨t, ht, exists_lacking_of_merge h⟩

theorem merge_combine_error_iff : (∃ e, merge .combine datasets = .error e) ↔
    ∃ first ∈ firstOccurrences (allTables datasets), ∃ s c,
      Lacking first (namesakes first (allTables datasets)).tail s c := by
  constructor
  · rintro ⟨e, h⟩
    obtain ⟨first, hfirst, s, c, hlacking, -⟩ := merge_combine_error h
    exact ⟨first, hfirst, s, c, hlacking⟩
  · rintro ⟨first, hfirst, s, c, hlacking⟩
    cases h : merge .combine datasets with
    | error e => exact ⟨e, rfl⟩
    | ok d =>
      rw [merge_eq, map_eq_ok] at h
      obtain ⟨tables, htables, -⟩ := h
      obtain ⟨u, -, hu⟩ := (mapM_ok_results htables).1 first hfirst
      exact absurd hlacking (not_lacking_of_merge hu s c)

/-! ## Data sets changed in place -/

/-- The data set is the one with the further table, or the old one if the table is refused. -/
theorem run_addTable (d : DataSet) (t : Table) : (addTable t).run.run d =
    match d.add t with
    | .ok d' => (.ok (), d')
    | .error e => (.error e, d) := by
  have hrun : (addTable t).run.run d = StateT.run (ExceptT.run (m := StateM DataSet)
      (if d.contains t.name then throw (.duplicateTable t.name)
        else modify fun d => ⟨d.tables ++ [t]⟩)) d := rfl
  rw [hrun, add]
  cases d.contains t.name <;> rfl

/-- Data sets that come about when some are made of tables, tables are added to some in place,
whether they are taken or refused, and some are merged. -/
inductive Reached : DataSet → Prop
  | ofTables {ts : List Table} {d : DataSet} (h : ofTables ts = .ok d) : Reached d
  | addTable {d d' : DataSet} {t : Table} {answer : Except DataSetError Unit} (hd : Reached d)
      (h : (addTable t).run.run d = (answer, d')) : Reached d'
  | merge {policy : MergePolicy} {datasets : List DataSet} {d : DataSet}
      (hds : ∀ x ∈ datasets, Reached x) (h : merge policy datasets = .ok d) : Reached d

theorem Reached.built (h : d.Reached) : d.Built := by
  induction h with
  | ofTables h => exact .ofTables h
  | merge _ h ih => exact .merge ih h
  | @addTable d d' t answer _ h ih =>
    rw [run_addTable] at h
    cases hadd : d.add t with
    | ok d₁ =>
      rw [hadd] at h
      cases h
      exact ih.add hadd
    | error e =>
      rw [hadd] at h
      cases h
      exact ih

/-- Looking up a name finds the table that has it, in whatever case it is written. -/
theorem table?_of_sameName (hd : DistinctNames d.tables) (ht : t ∈ d.tables)
    (hname : sameName t.name name = true) : d.table? name = some t := by
  have hsame : ∀ u : Table, u.metadata.hasName name = u.metadata.hasName t.name := fun u =>
    (sameName_congr hname u.name).symm
  rw [← table?_of_mem hd ht]
  simp only [table?, hsame]

/-- **A data set has one table for each name, and merging data sets keeps the first of them or all
of their rows.** -/
theorem merge_one_table_per_name :
    (∀ d, Reached d → DistinctNames d.tables ∧ ∀ t ∈ d.tables, ∀ name,
      sameName t.name name = true → d.table? name = some t) ∧
    (∀ d t e d', (addTable t).run.run d = (.error e, d') →
      d' = d ∧ e = .duplicateTable t.name ∧ d.contains t.name = true) ∧
    ∀ datasets,
      merge .firstWins datasets = .ok ⟨firstOccurrences (allTables datasets)⟩ ∧
      (∀ d, merge .combine datasets = .ok d →
        List.Forall₂ (fun first u => Combines (namesakes first (allTables datasets)) u)
          (firstOccurrences (allTables datasets)) d.tables) ∧
      ((∃ e, merge .combine datasets = .error e) ↔
        ∃ first ∈ firstOccurrences (allTables datasets), ∃ s c,
          Lacking first (namesakes first (allTables datasets)).tail s c) ∧
      ∀ e, merge .combine datasets = .error e →
        ∃ first ∈ firstOccurrences (allTables datasets), ∃ s c,
          Lacking first (namesakes first (allTables datasets)).tail s c ∧
            e = .noSuchColumn s.name c.name := by
  refine ⟨fun d hd => ?_, fun d t e d' h => ?_, fun datasets =>
    ⟨merge_firstWins datasets, fun d => merge_combine_ok, merge_combine_error_iff,
      fun e => merge_combine_error⟩⟩
  · have hdistinct := hd.built.distinct
    exact ⟨hdistinct, fun t ht name => table?_of_sameName hdistinct ht⟩
  · rw [run_addTable, add] at h
    cases hc : d.contains t.name with
    | true =>
      rw [hc] at h
      cases h
      exact ⟨rfl, rfl, rfl⟩
    | false =>
      rw [hc] at h
      cases h

/-- The columns of the second table are found in another order and case. -/
example : (merge .combine
    [⟨[⟨⟨"stock", [.untyped "item", .untyped "count"], [], []⟩, [[.text "nut", .int 3]], by simp⟩]⟩,
      ⟨[⟨⟨"STOCK", [.untyped "Count", .untyped "Item"], [], []⟩, [[.int 5, .text "bolt"]],
        by simp⟩]⟩]).toOption.map (·.tables.map fun t => (t.name, t.rows)) =
    some [("stock", [[.text "nut", .int 3], [.text "bolt", .int 5]])] := by
  rfl

end TableDiff.DataSet
