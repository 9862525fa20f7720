import Mathlib.Data.List.Basic
import Mathlib.Data.List.Nodup
import Mathlib.Data.List.Pairwise
import TableDiff.Dependency
import TableDiff.Proofs.Search.Fallible
import TableDiff.Proofs.Text.Case
import TableDiff.Result

/-!
# Sets of tables and their references

A set of tables keeps the first table of every name in upper case (`ofList_tables`), so no two of
its tables have one name (`distinct_ofList`) and looking a name up finds the one table that has it
(`lookup?_eq_some`). A table refers to another one of the set if one of its foreign keys names it
(`Refers`). The search for an order sees exactly these references (`visitor_answers`): what it
skips as a reference of a table to itself, by a comparison of its own, is nothing else.
-/

namespace TableDiff

open TableDiff.Text

/-- The first table of every name, names being equal if they are so in upper case. -/
def keptTables (tables : List Metadata) : List Metadata :=
  tables.eraseDupsBy fun a b => upperName a.name == upperName b.name

/-- A foreign key of the first table names the second one; both are in the list and differ. -/
def Refers (tables : List Metadata) (a b : Metadata) : Prop :=
  a ∈ tables ∧ b ∈ tables ∧ b ≠ a ∧
    ∃ key ∈ a.foreignKeys, upperName key.referencedTable = upperName b.name

instance (tables : List Metadata) : DecidableRel (Refers tables) :=
  fun a b => inferInstanceAs (Decidable (a ∈ tables ∧ b ∈ tables ∧ b ≠ a ∧
    ∃ key ∈ a.foreignKeys, upperName key.referencedTable = upperName b.name))

/-- A chain of references leads from the first table to the second one. -/
def DependsOn (tables : List Metadata) : Metadata → Metadata → Prop :=
  Relation.TransGen (Refers tables)

namespace TableSet

variable {s : TableSet} {t u : Metadata} {name : String}

/-! ## The tables of a set -/

/-- No two tables of the set have one name in upper case. -/
def Distinct (s : TableSet) : Prop := (s.tables.map fun t => upperName t.name).Nodup

theorem lookup?_eq_none : s.lookup? name = none ↔
    ∀ t ∈ s.tables, upperName t.name ≠ upperName name := by
  simp [lookup?, List.find?_eq_none]

theorem mem_of_lookup? (h : s.lookup? name = some t) :
    t ∈ s.tables ∧ upperName t.name = upperName name := by
  unfold lookup? at h
  exact ⟨List.mem_of_find?_eq_some h, by simpa using List.find?_some h⟩

theorem Distinct.eq (h : s.Distinct) (ht : t ∈ s.tables) (hu : u ∈ s.tables)
    (hname : upperName t.name = upperName u.name) : t = u :=
  List.inj_on_of_nodup_map h ht hu hname

theorem Distinct.nodup_names (h : s.Distinct) : (s.tables.map (·.name)).Nodup :=
  .of_map upperName (by rwa [List.map_map])

theorem lookup?_eq_some (h : s.Distinct) :
    s.lookup? name = some t ↔ t ∈ s.tables ∧ upperName t.name = upperName name := by
  refine ⟨mem_of_lookup?, fun ⟨ht, hname⟩ => ?_⟩
  cases hl : s.lookup? name with
  | none => exact absurd hname (lookup?_eq_none.1 hl t ht)
  | some u =>
    obtain ⟨hu, huname⟩ := mem_of_lookup? hl
    rw [h.eq hu ht (huname.trans hname.symm)]

theorem insert_tables (s : TableSet) (t : Metadata) : (s.insert t).tables =
    if upperName t.name ∈ s.tables.map fun u => upperName u.name then s.tables
    else s.tables ++ [t] := by
  have hl : (s.lookup? t.name).isSome = true ↔
      upperName t.name ∈ s.tables.map fun u => upperName u.name := by
    rw [← not_iff_not, Bool.not_eq_true, Option.isSome_eq_false_iff, Option.isNone_iff_eq_none,
      lookup?_eq_none]
    simp
  unfold insert
  split
  next hs => rw [if_pos (hl.1 hs)]
  next hs => rw [if_neg (mt hl.2 hs)]

theorem Distinct.insert (h : s.Distinct) (t : Metadata) : (s.insert t).Distinct := by
  unfold Distinct
  rw [insert_tables]
  split
  next => exact h
  next hnew =>
    rw [List.map_append, List.nodup_append]
    refine ⟨h, List.nodup_singleton _, fun a ha b hb hab => hnew ?_⟩
    rw [List.map_singleton, List.mem_singleton] at hb
    exact hb ▸ hab ▸ ha

/-- Inserting one table after another keeps those that are new when their turn comes. -/
theorem foldl_insert_tables (ts : List Metadata) (s : TableSet) :
    (ts.foldl insert s).tables = List.eraseDupsBy.loop
      (fun a b => upperName a.name == upperName b.name) ts s.tables.reverse := by
  induction ts generalizing s with
  | nil => simp [List.eraseDupsBy.loop]
  | cons t ts ih =>
    have hany : (s.tables.reverse.any fun u => upperName t.name == upperName u.name) =
        decide (upperName t.name ∈ s.tables.map fun u => upperName u.name) := by
      rw [Bool.eq_iff_iff, decide_eq_true_iff, List.any_reverse, List.any_eq_true, List.mem_map]
      exact exists_congr fun u => and_congr_right fun _ => beq_iff_eq.trans eq_comm
    rw [List.foldl_cons, ih, List.eraseDupsBy.loop, hany, insert_tables]
    split
    next h => simp [h]
    next h => simp [h]

theorem ofList_tables (tables : List Metadata) : (ofList tables).tables = keptTables tables :=
  foldl_insert_tables tables {}

theorem distinct_ofList (tables : List Metadata) : (ofList tables).Distinct := by
  have hfold : ∀ (ts : List Metadata) {s : TableSet}, s.Distinct →
      (ts.foldl TableSet.insert s).Distinct := by
    intro ts
    induction ts with
    | nil => exact fun h => h
    | cons t ts ih => exact fun h => ih (h.insert t)
  exact hfold tables .nil

/-- Two tables of a set that are told to have one name by the case of ASCII letters are one
table. -/
theorem Distinct.hasName_iff (h : s.Distinct) (ht : t ∈ s.tables) (hu : u ∈ s.tables) :
    t.hasName u.name = true ↔ t = u := by
  constructor
  · exact fun hn => h.eq ht hu (upperName_eq_of_sameName hn)
  · rintro rfl
    exact sameName_refl t.name

/-! ## References as edges -/

/-- The references between the tables of a set, by the names of the tables. -/
def graph (s : TableSet) : Search.Graph String where
  edges n := {e | ∃ a b, Refers s.tables a b ∧ upperName a.name = upperName n ∧
    e = ⟨a.name, b.name⟩}
  takesPart _ := true

/-- A foreign key that names another table of the set has an edge, if that table has a primary
key. -/
theorem edgeFor?_of_reference (h : s.Distinct) (ht : t ∈ s.tables) (hu : u ∈ s.tables)
    (hne : u ≠ t) {key : ForeignKey} (hkey : upperName key.referencedTable = upperName u.name) :
    s.edgeFor? t key = if u.hasPrimaryKey then .ok (some ⟨t.name, u.name⟩)
      else .error (.noPrimaryKey u.name) := by
  have hl : s.lookup? key.referencedTable = some u := (lookup?_eq_some h).2 ⟨hu, hkey.symm⟩
  have hn : ¬ u.hasName t.name = true := fun hn => hne ((h.hasName_iff hu ht).1 hn)
  simp only [edgeFor?, hl, if_neg hn]

/-- A foreign key has no edge unless it is a reference to another table of the set. -/
theorem edgeFor?_cases (h : s.Distinct) (ht : t ∈ s.tables) {key : ForeignKey}
    (hkey : key ∈ t.foreignKeys) :
    s.edgeFor? t key = .ok none ∨ ∃ u, Refers s.tables t u ∧
      s.edgeFor? t key = if u.hasPrimaryKey then .ok (some ⟨t.name, u.name⟩)
        else .error (.noPrimaryKey u.name) := by
  by_cases href : ∃ u ∈ s.tables, u ≠ t ∧ upperName key.referencedTable = upperName u.name
  · obtain ⟨u, hu, hne, hku⟩ := href
    exact .inr ⟨u, ⟨ht, hu, hne, key, hkey, hku⟩, edgeFor?_of_reference h ht hu hne hku⟩
  · left
    unfold edgeFor?
    split
    next => rfl
    next u hl =>
      obtain ⟨hu, hname⟩ := mem_of_lookup? hl
      have hut : u = t := by_contra fun hne => href ⟨u, hu, hne, hname.symm⟩
      rw [if_pos ((h.hasName_iff hu ht).2 hut)]

/-- The edges of a table, where all of them are found, are its references. -/
theorem mem_edgesFrom (h : s.Distinct) {edges : List (Edge String)}
    (hok : s.edgesFrom name = .ok edges) (e : Edge String) :
    e ∈ edges ↔ e ∈ s.graph.edges name := by
  unfold edgesFrom at hok
  split at hok
  next hl =>
    cases hok
    refine iff_of_false List.not_mem_nil ?_
    rintro ⟨a, b, hab, hname, -⟩
    exact lookup?_eq_none.1 hl a hab.1 hname
  next t hl =>
    obtain ⟨ht, hname⟩ := mem_of_lookup? hl
    obtain ⟨found, hfound, hok⟩ := bind_eq_ok.1 hok
    obtain ⟨hsteps, hresults⟩ := mapM_ok_results hfound
    rw [← pure_eq_ok.1 hok, List.mem_filterMap]
    constructor
    · rintro ⟨_, he, rfl⟩
      obtain ⟨key, hkey, hedge⟩ := hresults _ he
      rcases edgeFor?_cases h ht hkey with hnone | ⟨u, htu, hcase⟩
      · rw [hnone] at hedge
        cases hedge
      · rw [hcase] at hedge
        split at hedge
        · cases hedge
          exact ⟨t, u, htu, hname, rfl⟩
        · cases hedge
    · rintro ⟨a, b, ⟨ha, hb, hne, key, hkey, hkb⟩, haname, rfl⟩
      have hat : a = t := h.eq ha ht (haname.trans hname.symm)
      subst hat
      obtain ⟨x, hx, hedge⟩ := hsteps key hkey
      rw [edgeFor?_of_reference h ht hb hne hkb] at hedge
      split at hedge
      · cases hedge
        exact ⟨_, hx, rfl⟩
      · cases hedge

theorem visitor_answers (h : s.Distinct) : s.visitor.Answers s.graph where
  edgesFrom he e := mem_edgesFrom h (congrArg Prod.fst he) e
  shouldVisit hv := by
    cases hv
    rfl

end TableSet

end TableDiff
