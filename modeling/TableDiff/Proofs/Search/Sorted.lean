import TableDiff.Proofs.Search.Recursion

/-!
# Searches from roots that are in order

Where every edge of a root leads to an earlier root (`Visitor.Sorts`), a search takes the roots one
by one: all targets of a root have been added when its turn comes, so its visit adds the root and
nothing else (`visit_of_sorted`). The result is the list of the roots (`search_of_sorted`).
-/

namespace TableDiff.Search

variable {ν σ ε : Type}

/-- The visitor does not fail at the nodes of the list; all of them take part, and all their edges
lead to nodes that stand before them. -/
structure Visitor.Sorts (v : Visitor σ ε ν) (order : List ν) : Prop where
  shouldVisit : ∀ n ∈ order, ∀ w, ∃ w', v.shouldVisit n w = (.ok true, w')
  edgesFrom : ∀ n ∈ order, ∀ w, ∃ edges w', v.edgesFrom n w = (.ok edges, w') ∧
    ∀ e ∈ edges, [e.target, n].Sublist order
  nodeAdded : ∀ n ∈ order, ∀ w, ∃ w', v.nodeAdded n w = (.ok (), w')

/-- In a list without repetitions, what stands before a node is in the part before it. -/
theorem mem_of_pair_sublist {before after : List ν} {m n : ν}
    (hnodup : (before ++ n :: after).Nodup) (h : [m, n].Sublist (before ++ n :: after)) :
    m ∈ before := by
  have hlast : ¬ [n].Sublist after := by
    rw [List.singleton_sublist]
    exact (List.nodup_cons.1 (List.nodup_append.1 hnodup).2.1).1
  obtain ⟨as, bs, heq, has, hbs⟩ := List.sublist_append_iff.1 h
  cases as with
  | nil =>
    cases heq
    cases hbs with
    | cons _ hbs => exact absurd ((List.sublist_cons_self m [n]).trans hbs) hlast
    | cons_cons _ hbs => exact absurd hbs hlast
  | cons a as =>
    have hm : m = a := (List.cons.inj heq).1
    exact has.subset (hm ▸ List.mem_cons_self)

variable [DecidableEq ν] [Ord ν] {v : Visitor σ ε ν} {order before rest : List ν} {n : ν}

/-- Nodes that are in the result already are passed over. -/
theorem visitEach_of_known {ns path : List ν} {k : Decisions ν} {depth : Nat}
    (h : ∀ n ∈ ns, n ∈ k.result) (w : σ) :
    visitEach (visit v depth path) ns k w = some (.ok k, w) := by
  induction ns with
  | nil => rfl
  | cons n ns ih =>
    obtain ⟨hn, hns⟩ := List.forall_mem_cons.1 h
    have hvisit : visit v depth path n k w = some (.ok k, w) := by
      unfold visit
      rw [if_pos (.inl hn)]
    rw [visitEach, hvisit]
    exact ih hns

/-- A node whose targets are in the result already is added, and no other. -/
theorem visit_of_sorted (hv : v.Sorts (before ++ n :: rest)) (hnodup : (before ++ n :: rest).Nodup)
    (w : σ) : ∃ w', visit v 1 [] n ⟨before, []⟩ w = some (.ok ⟨before ++ [n], []⟩, w') := by
  have hn : n ∈ before ++ n :: rest := List.mem_append_right before List.mem_cons_self
  have hnew : ¬ (n ∈ before ∨ n ∈ ([] : List ν) ∨ n ∈ ([] : List ν)) := by
    rintro (h | h | h)
    · exact List.disjoint_of_nodup_append hnodup h List.mem_cons_self
    · cases h
    · cases h
  obtain ⟨w₁, hvisit⟩ := hv.shouldVisit n hn w
  obtain ⟨edges, w₂, hedges, htargets⟩ := hv.edgesFrom n hn w₁
  obtain ⟨w₃, hadd⟩ := hv.nodeAdded n hn w₂
  have hknown : ∀ m ∈ targets edges, m ∈ before := by
    intro m hm
    obtain ⟨e, he, rfl⟩ := mem_targets.1 hm
    exact mem_of_pair_sublist hnodup (htargets e he)
  refine ⟨w₃, ?_⟩
  unfold visit
  rw [if_neg hnew]
  simp only [hvisit, hedges, visitEach_of_known (k := ⟨before, []⟩) hknown, Option.map_some,
    addVisited, hadd]

/-- The visits of the roots that are left add them in their order. -/
theorem visitEach_of_sorted (hv : v.Sorts (before ++ rest)) (hnodup : (before ++ rest).Nodup)
    (w : σ) :
    ∃ w', visitEach (visit v 1 []) rest ⟨before, []⟩ w = some (.ok ⟨before ++ rest, []⟩, w') := by
  induction rest generalizing before w with
  | nil =>
    rw [List.append_nil]
    exact ⟨w, rfl⟩
  | cons n rest ih =>
    obtain ⟨w₁, hn⟩ := visit_of_sorted hv hnodup w
    rw [List.append_cons] at hv hnodup ⊢
    obtain ⟨w₂, hrest⟩ := ih hv hnodup w₁
    refine ⟨w₂, ?_⟩
    rw [visitEach, hn]
    exact hrest

/-- A search from roots that are in order lists the roots. -/
theorem search_of_sorted (hv : v.Sorts order) (hnodup : order.Nodup) (w : σ) :
    ∃ limit w', search v limit order w = some (.ok order, w') := by
  have hv : v.Sorts ([] ++ order) := hv
  obtain ⟨w', h⟩ := visitEach_of_sorted hv hnodup w
  have hrec : recursiveSearch v 1 order w = some (.ok order, w') := by
    unfold recursiveSearch
    rw [h]
    rfl
  obtain ⟨limit, hsearch⟩ := search_of_recursiveSearch hrec
  exact ⟨limit, w', hsearch⟩

end TableDiff.Search
