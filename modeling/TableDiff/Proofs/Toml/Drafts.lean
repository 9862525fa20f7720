import TableDiff.Toml.Reader

/-!
# Documents under construction

A key with its value extends the table that the last header opened and nothing else: the path of the
header leads there (`Leads`), whether the table is the whole document, has a header of its own or is
the last one of repeated tables. So keys that differ give a table its entries in their order
(`Leads.foldlM_pairLines`), and a key gets one table for each of its repeated headers
(`foldlM_tableLines`). From this follows what a document with all three sorts of tables denotes
(`finish_document`).
-/

namespace TableDiff.Toml

variable {base sub : Entries} {place : Entries → Entries} {path : List String} {key : String}
  {v : Toml}

/-! ## Keys of a table -/

theorem lookup_last (h : base.lookup key = none) (node : Node) :
    (base ++ [(key, node)]).lookup key = some node := by
  rw [List.lookup_append, h, Option.none_or, List.lookup_cons_self]

/-- A key that is not there before is looked for behind. -/
theorem put_append (h : base.lookup key = none) (more : Entries) (node : Node) :
    Entries.put (base ++ more) key node = base ++ Entries.put more key node := by
  induction base with
  | nil => rfl
  | cons entry base ih =>
    obtain ⟨k, n⟩ := entry
    rw [List.lookup_cons] at h
    split at h
    next => cases h
    next hne =>
      have hk : k ≠ key := fun heq => by simp [heq] at hne
      rw [List.cons_append, Entries.put, if_neg hk, ih h, List.cons_append]

theorem put_new (h : base.lookup key = none) (node : Node) :
    Entries.put base key node = base ++ [(key, node)] := by
  have hput := put_append h [] node
  rwa [List.append_nil] at hput

theorem put_last (h : base.lookup key = none) (old new : Node) :
    Entries.put (base ++ [(key, old)]) key new = base ++ [(key, new)] := by
  rw [put_append h, Entries.put, if_pos rfl]

/-! ## The open table -/

/-- The path leads to the table in its place: what is changed there is changed in that table. -/
def Leads (place : Entries → Entries) (path : List String) : Prop :=
  ∀ (change : Entries.Change) (sub : Entries),
    Entries.changeAt false change .header (place sub) path = (change .header sub).map place

theorem leads_root : Leads id [] := by
  intro change sub
  rw [Entries.changeAt, Option.map_id, id, id]

theorem leads_header (h : base.lookup key = none) :
    Leads (fun sub => base ++ [(key, .table .header sub)]) [key] := by
  intro change sub
  simp [Entries.changeAt, lookup_last h, put_last h]

theorem leads_repeated (h : base.lookup key = none) (all : List Entries) :
    Leads (fun sub => base ++ [(key, .tables (all ++ [sub]))]) [key] := by
  intro change sub
  simp [Entries.changeAt, lookup_last h, put_last h]

/-- A new key with its value is added at the end of the open table. -/
theorem Leads.apply_pair (h : Leads place path) (hkey : sub.lookup key = none) (v : Toml) :
    Draft.apply ⟨place sub, path⟩ (.pair [] key v) =
      some ⟨place (sub ++ [(key, .value v)]), path⟩ := by
  have hadd : Entries.addDotted [] key v .header sub = some (sub ++ [(key, .value v)]) := by
    simp [Entries.addDotted, Entries.changeAt, Entries.addValue, hkey, put_new hkey]
  rw [Draft.apply, h, hadd]
  rfl

/-! ## The entries of a table -/

/-- The entries of a table whose keys have values. -/
def valued (pairs : List (String × Toml)) : Entries := pairs.map fun p => (p.1, .value p.2)

/-- The statements that give keys their values. -/
def pairLines (pairs : List (String × Toml)) : List Statement :=
  pairs.map fun p => .pair [] p.1 p.2

theorem lookup_valued {pairs : List (String × Toml)} (h : key ∉ pairs.map Prod.fst) :
    (valued pairs).lookup key = none := by
  rw [List.lookup_eq_none_iff]
  rintro entry hentry
  obtain ⟨p, hp, rfl⟩ := List.mem_map.1 hentry
  have hne : key ≠ p.1 := fun heq => h (heq ▸ List.mem_map_of_mem hp)
  simpa using hne

theorem Leads.foldlM_pairLines_onto (h : Leads place path) (done : List (String × Toml))
    {pairs : List (String × Toml)} (hkeys : ((done ++ pairs).map Prod.fst).Nodup) :
    (pairLines pairs).foldlM Draft.apply ⟨place (valued done), path⟩ =
      some ⟨place (valued (done ++ pairs)), path⟩ := by
  induction pairs generalizing done with
  | nil => simp [pairLines]
  | cons p pairs ih =>
    -- the key is none of those that are done, and then it is done itself
    have hsplit : done ++ p :: pairs = done ++ [p] ++ pairs := by simp
    have hnew : p.1 ∉ done.map Prod.fst := by
      rw [hsplit, List.map_append, List.map_append] at hkeys
      have hdone := (List.nodup_append.1 hkeys).1
      exact fun hp => (List.nodup_append.1 hdone).2.2 p.1 hp p.1 (by simp) rfl
    have hvalued : valued done ++ [(p.1, .value p.2)] = valued (done ++ [p]) := by simp [valued]
    rw [hsplit] at hkeys ⊢
    rw [pairLines, List.map_cons, List.foldlM_cons, h.apply_pair (lookup_valued hnew), hvalued]
    exact ih (done ++ [p]) hkeys

theorem Leads.foldlM_pairLines (h : Leads place path) {pairs : List (String × Toml)}
    (hkeys : (pairs.map Prod.fst).Nodup) :
    (pairLines pairs).foldlM Draft.apply ⟨place [], path⟩ = some ⟨place (valued pairs), path⟩ :=
  h.foldlM_pairLines_onto [] hkeys

/-! ## Tables under headers -/

theorem apply_header (h : base.lookup key = none) (path : List String) :
    Draft.apply ⟨base, path⟩ (.header [] key) =
      some ⟨base ++ [(key, .table .header [])], [key]⟩ := by
  simp [Draft.apply, Entries.changeAt, Entries.addHeader, h, put_new h]

/-- The entry of a key with repeated tables; there is none before the first table, so that the first
header and the later ones are of one kind. -/
def repeated (key : String) (all : List Entries) : Entries :=
  if all.isEmpty then [] else [(key, .tables all)]

theorem apply_repeatedHeader (h : base.lookup key = none) (all : List Entries)
    (path : List String) :
    Draft.apply ⟨base ++ repeated key all, path⟩ (.repeatedHeader [] key) =
      some ⟨base ++ [(key, .tables (all ++ [[]]))], [key]⟩ := by
  cases all with
  | nil =>
    simp [Draft.apply, Entries.changeAt, Entries.addRepeated, repeated, h, put_new h]
  | cons first all =>
    simp [Draft.apply, Entries.changeAt, Entries.addRepeated, repeated, lookup_last h, put_last h]

/-- The statements for repeated tables of a key. -/
def tableLines (key : String) (tables : List (List (String × Toml))) : List Statement :=
  tables.flatMap fun pairs => .repeatedHeader [] key :: pairLines pairs

theorem foldlM_tableLines (h : base.lookup key = none) {tables : List (List (String × Toml))}
    (hkeys : ∀ pairs ∈ tables, (pairs.map Prod.fst).Nodup) (all : List Entries)
    (path : List String) :
    ((tableLines key tables).foldlM Draft.apply ⟨base ++ repeated key all, path⟩).map
        Draft.entries = some (base ++ repeated key (all ++ tables.map valued)) := by
  induction tables generalizing all path with
  | nil => simp [tableLines]
  | cons pairs tables ih =>
    obtain ⟨hpairs, htables⟩ := List.forall_mem_cons.1 hkeys
    have hopen := (leads_repeated h all).foldlM_pairLines hpairs
    have hone : base ++ [(key, .tables (all ++ [valued pairs]))] =
        base ++ repeated key (all ++ [valued pairs]) := by simp [repeated]
    rw [hone] at hopen
    rw [tableLines, List.flatMap_cons, List.foldlM_append, List.foldlM_cons,
      apply_repeatedHeader h]
    simp only [Option.bind_eq_bind, Option.bind_some, hopen]
    have hrest := ih htables (all ++ [valued pairs]) [key]
    rw [List.append_assoc] at hrest
    exact hrest

/-! ## Finished tables -/

theorem finishEntries_append (base more : Entries) :
    finishEntries (base ++ more) = finishEntries base ++ finishEntries more := by
  induction base with
  | nil => rfl
  | cons entry base ih => rw [List.cons_append, finishEntries, finishEntries, ih, List.cons_append]

theorem finishEntries_valued (pairs : List (String × Toml)) :
    finishEntries (valued pairs) = pairs := by
  induction pairs with
  | nil => rfl
  | cons p pairs ih =>
    change (p.1, p.2) :: finishEntries (valued pairs) = p :: pairs
    rw [ih]

theorem finishTables_valued (tables : List (List (String × Toml))) :
    finishTables (tables.map valued) = tables.map .table := by
  induction tables with
  | nil => rfl
  | cons pairs tables ih =>
    rw [List.map_cons, finishTables, finishEntries_valued, ih, List.map_cons]

theorem finishEntries_repeated (key : String) (tables : List (List (String × Toml))) :
    finishEntries (repeated key (tables.map valued)) =
      if tables.isEmpty then [] else [(key, .array (tables.map .table))] := by
  rw [repeated, List.isEmpty_map]
  split
  next => rfl
  next =>
    rw [finishEntries, finishEntries, Node.finish, finishTables_valued]

/-- Repeated tables behind finished entries; without them their key may stand among the entries. -/
theorem finish_tableLines {tables : List (List (String × Toml))}
    (h : tables = [] ∨ base.lookup key = none) (hkeys : ∀ t ∈ tables, (t.map Prod.fst).Nodup)
    (path : List String) :
    ((tableLines key tables).foldlM Draft.apply ⟨base, path⟩).map
        (fun d => finishEntries d.entries) =
      some (finishEntries base ++
        if tables.isEmpty then [] else [(key, .array (tables.map .table))]) := by
  have hrun : ((tableLines key tables).foldlM Draft.apply ⟨base, path⟩).map Draft.entries =
      some (base ++ repeated key (tables.map valued)) := by
    rcases h with rfl | h
    · simp [tableLines, repeated]
    · have htables := foldlM_tableLines h hkeys [] path
      simpa [repeated] using htables
  change ((tableLines key tables).foldlM Draft.apply ⟨base, path⟩).map
    (finishEntries ∘ Draft.entries) = _
  rw [← Option.map_map, hrun, Option.map_some, finishEntries_append, finishEntries_repeated]

/-! ## Whole documents -/

/-- A document with keys that have values, a table with a header of its own and a key with repeated
tables denotes these. -/
theorem finish_document {name : String} {pairs inner : List (String × Toml)}
    {tables : List (List (String × Toml))} (hpairs : (name :: pairs.map Prod.fst).Nodup)
    (hinner : (inner.map Prod.fst).Nodup) (htables : ∀ t ∈ tables, (t.map Prod.fst).Nodup)
    (hkey : tables = [] ∨ key ∉ name :: pairs.map Prod.fst) :
    ((pairLines pairs ++ .header [] name :: pairLines inner ++ tableLines key tables).foldlM
        Draft.apply {}).map (fun d => finishEntries d.entries) =
      some (pairs ++ (name, .table inner) ::
        if tables.isEmpty then [] else [(key, .array (tables.map .table))]) := by
  obtain ⟨hname, hpairs⟩ := List.nodup_cons.1 hpairs
  have hnew := lookup_valued hname
  have hroot : (pairLines pairs).foldlM Draft.apply {} = some ⟨valued pairs, []⟩ :=
    leads_root.foldlM_pairLines hpairs
  have hopen : (pairLines pairs ++ .header [] name :: pairLines inner).foldlM Draft.apply {} =
      some ⟨valued pairs ++ [(name, .table .header (valued inner))], [name]⟩ := by
    simp only [List.foldlM_append, List.foldlM_cons, hroot, apply_header hnew, Option.bind_eq_bind,
      Option.bind_some]
    exact (leads_header hnew).foldlM_pairLines hinner
  have hbase : tables = [] ∨
      (valued pairs ++ [(name, Node.table .header (valued inner))]).lookup key = none := by
    refine hkey.imp_right fun hkey => ?_
    rw [List.mem_cons, not_or] at hkey
    have hne : (key == name) = false := beq_eq_false_iff_ne.2 hkey.1
    rw [List.lookup_append, lookup_valued hkey.2, Option.none_or, List.lookup_cons, hne]
    rfl
  rw [List.foldlM_append, hopen]
  refine (finish_tableLines hbase htables [name]).trans ?_
  rw [finishEntries_append, finishEntries_valued, finishEntries, finishEntries, Node.finish,
    finishEntries_valued, List.append_assoc]
  rfl

end TableDiff.Toml
