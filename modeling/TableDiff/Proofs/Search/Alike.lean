import TableDiff.Proofs.Search.Recursion

/-!
# Visitors that a search cannot tell apart

A search follows the targets of a set of edges in the order of the edges, so it does not see in
which order and how often a visitor lists them (`targets_congr`). Visitors that differ in nothing
else (`Visitor.Alike`) lead every search through the same states to the same outcome
(`search_alike`).
-/

open Std

namespace TableDiff.Search

variable {ν σ ε : Type}

/-- Answers about edges that are the same up to the order and repetition of edges. -/
inductive SameEdges : Except ε (List (Edge ν)) × σ → Except ε (List (Edge ν)) × σ → Prop
  | ok {edges edges' : List (Edge ν)} {w : σ} (h : ∀ e, e ∈ edges ↔ e ∈ edges') :
      SameEdges (.ok edges, w) (.ok edges', w)
  | error {cause : ε} {w : σ} : SameEdges (.error cause, w) (.error cause, w)

/-- The visitors give the same answers, edges being taken as sets. -/
structure Visitor.Alike (u v : Visitor σ ε ν) : Prop where
  shouldVisit : ∀ n w, u.shouldVisit n w = v.shouldVisit n w
  nodeAdded : ∀ n w, u.nodeAdded n w = v.nodeAdded n w
  edgesFrom : ∀ n w, SameEdges (u.edgesFrom n w) (v.edgesFrom n w)

variable [DecidableEq ν] [Ord ν] [TransOrd ν] [LawfulEqOrd ν] {u v : Visitor σ ε ν}

/-- The targets of edges depend only on the set of the edges. -/
theorem targets_congr {edges edges' : List (Edge ν)} (h : ∀ e, e ∈ edges ↔ e ∈ edges') :
    targets edges = targets edges' := by
  refine targets_eq_of_pairwise (fun e => ?_) (pairwise_sorted_edges edges')
  rw [mem_eraseReps, List.mem_mergeSort, h]

theorem enter_alike (h : u.Alike v) (n : ν) (s : State ν) (w : σ) :
    enter u n s w = enter v n s w := by
  unfold enter
  rw [h.shouldVisit]
  cases s.isKnown n with
  | true => rfl
  | false =>
    rcases v.shouldVisit n w with ⟨cause | takesPart, w₁⟩
    · rfl
    cases takesPart with
    | false => rfl
    | true =>
      have hsame := h.edgesFrom n w₁
      simp only [Bool.false_eq_true, ↓reduceIte]
      generalize u.edgesFrom n w₁ = answer, v.edgesFrom n w₁ = answer' at hsame ⊢
      cases hsame with
      | ok hedges => simp only [targets_congr hedges]
      | error => rfl

theorem step_alike (h : u.Alike v) (s : State ν) (w : σ) : step u s w = step v s w := by
  unfold step
  split
  · exact enter_alike h _ _ w
  · unfold accept
    rw [h.nodeAdded]
  · split
    · exact enter_alike h _ _ w
    · rfl

theorem run_alike (h : u.Alike v) (limit : Nat) (s : State ν) (w : σ) :
    run u limit s w = run v limit s w := by
  fun_induction run v limit s w with
  | case1 limit s w result w₁ hs =>
    rw [run_eq, step_alike h, hs]
    rfl
  | case2 limit s w failure w₁ hs =>
    rw [run_eq, step_alike h, hs]
    rfl
  | case3 limit s w s' w₁ hs _ ih =>
    rw [run_eq, step_alike h, hs]
    exact ih
  | case4 s w s' w₁ hs =>
    rw [run_eq, step_alike h, hs]
    rfl
  | case5 s w s' w₁ hs limit ih =>
    rw [run_eq, step_alike h, hs]
    exact ih

/-- Searches with visitors that are alike have the same outcome. -/
theorem search_alike (h : u.Alike v) (limit : Nat) (roots : List ν) (w : σ) :
    search u limit roots w = search v limit roots w :=
  run_alike h limit { roots } w

end TableDiff.Search
