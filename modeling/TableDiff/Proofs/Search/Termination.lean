import Mathlib.Algebra.GroupWithZero.Nat
import TableDiff.Proofs.Search.Calls

/-!
# Searches of a finite set of nodes end

A visitor may change its answers from call to call, and its edges may name any source. A search ends
all the same if what it is given to take up lies in a finite set: its roots and the targets of the
edges that it is told of (`Confined`). No node is entered twice, so the set bounds the nodes that are
entered, and between two entries the targets and roots that are left get fewer (`run_ends`).

The moves are counted exactly (`pending_advance`): each one takes up a root or a target, or adds a
node. So a search makes at most one move for each root, one for each target and one for each node
that it is told the edges of, and a last one (`search_of_confined_ends`).
-/

namespace TableDiff.Search

variable {ν σ ε : Type} {s t s' : State ν} {n : ν} {U : Finset ν}

/-! ## States within a set -/

/-- All nodes that a state has entered or may still take up are in the set. -/
structure State.Within (s : State ν) (U : Finset ν) : Prop where
  roots : ∀ n ∈ s.roots, n ∈ U
  frames : ∀ f ∈ s.stack, ∀ n ∈ f.targets, n ∈ U
  entered : ∀ n ∈ s.entered, n ∈ U

/-- What a state takes up next is in the set, and so is what it has left. -/
theorem State.Within.offered (h : s.Within U) (ho : Offers s n t) : n ∈ U ∧ t.Within U := by
  cases ho with
  | @target _ _ more rest hs =>
    have hframes := h.frames
    rw [hs] at hframes
    obtain ⟨hfirst, hrest⟩ := List.forall_mem_cons.1 hframes
    obtain ⟨hn, hmore⟩ := List.forall_mem_cons.1 hfirst
    exact ⟨hn, h.roots, List.forall_mem_cons.2 ⟨hmore, hrest⟩, h.entered⟩
  | root hs hr =>
    have hroots := h.roots
    rw [hr] at hroots
    obtain ⟨hn, hrest⟩ := List.forall_mem_cons.1 hroots
    exact ⟨hn, hrest, h.frames, h.entered⟩

/-- To take up a node is one move less to make. -/
theorem Offers.pending (ho : Offers s n t) : s.pending = t.pending + 1 := by
  cases ho with
  | target hs =>
    simp only [State.pending, hs, List.foldr_cons, List.length_cons]
    omega
  | root hs hr => simp [State.pending, hs, hr]

variable {v : Visitor σ ε ν} {log : List (Call ε ν)} {w : σ} {x : List (Call ε ν) × σ}

/-! ## Logged answers -/

/-- An answer that the visitor gives in some state of its own. -/
def Visitor.CanAnswer (v : Visitor σ ε ν) : Call ε ν → Prop
  | .shouldVisit n answer => ∃ w, (v.shouldVisit n w).1 = answer
  | .edgesFrom n answer => ∃ w, (v.edgesFrom n w).1 = answer
  | .nodeAdded n answer => ∃ w, (v.nodeAdded n w).1 = answer

theorem answered_shouldVisit {answer : Except ε Bool} (h : ∀ c ∈ log, v.CanAnswer c)
    (hv : v.logging.shouldVisit n (log, w) = (answer, x)) : ∀ c ∈ x.1, v.CanAnswer c := by
  rw [logging_shouldVisit hv]
  exact List.forall_mem_append.2 ⟨h, List.forall_mem_singleton.2 ⟨w, congrArg Prod.fst hv⟩⟩

theorem answered_edgesFrom {answer : Except ε (List (Edge ν))} (h : ∀ c ∈ log, v.CanAnswer c)
    (hv : v.logging.edgesFrom n (log, w) = (answer, x)) : ∀ c ∈ x.1, v.CanAnswer c := by
  rw [logging_edgesFrom hv]
  exact List.forall_mem_append.2 ⟨h, List.forall_mem_singleton.2 ⟨w, congrArg Prod.fst hv⟩⟩

theorem answered_nodeAdded {answer : Except ε Unit} (h : ∀ c ∈ log, v.CanAnswer c)
    (hv : v.logging.nodeAdded n (log, w) = (answer, x)) : ∀ c ∈ x.1, v.CanAnswer c := by
  rw [logging_nodeAdded hv]
  exact List.forall_mem_append.2 ⟨h, List.forall_mem_singleton.2 ⟨w, congrArg Prod.fst hv⟩⟩

variable [DecidableEq ν] [Ord ν]

/-- What a move logs are answers of the visitor. -/
theorem answered_step {m : Move ν ε} (h : ∀ c ∈ log, v.CanAnswer c)
    (hstep : step v.logging s (log, w) = (m, x)) : ∀ c ∈ x.1, v.CanAnswer c := by
  have hm := step_moves v.logging s (log, w)
  rw [hstep] at hm
  cases hm with
  | known => exact h
  | refused _ _ hv => exact answered_shouldVisit h hv
  | entered _ _ hv he => exact answered_edgesFrom (answered_shouldVisit h hv) he
  | added _ ha => exact answered_nodeAdded h ha
  | finished => exact h
  | visitFailed _ _ hv => exact answered_shouldVisit h hv
  | edgesFailed _ _ hv he => exact answered_edgesFrom (answered_shouldVisit h hv) he
  | addFailed _ ha => exact answered_nodeAdded h ha

theorem answered_movesFrom (h : ∀ c ∈ log, v.CanAnswer c) (k : Nat) (s : State ν) :
    ∀ c ∈ (movesFrom v.logging k s (log, w)).2.1, v.CanAnswer c := by
  induction k generalizing s log w with
  | zero => exact h
  | succ k ih =>
    rw [movesFrom]
    rcases hs : step v.logging s (log, w) with ⟨s' | s' | result | failure, x⟩
    · exact ih (answered_step h hs) s'
    · exact ih (answered_step h hs) s'
    · exact answered_step h hs
    · exact answered_step h hs

/-! ## States stay within a set -/

theorem State.Within.advance (h : s.Within U) (hc : s.Consistent)
    (ha : Advances v.logging s (log, w) s' x)
    (hlog : ∀ n edges, .edgesFrom n (.ok edges) ∈ x.1 → ∀ e ∈ edges, e.target ∈ U) :
    s'.Within U := by
  have hm := step_moves v.logging s (log, w)
  rcases ha with ha | ha <;> rw [ha] at hm
  · cases hm with
    | known ho hk => exact (h.offered ho).2
    | refused ho hk hv =>
      obtain ⟨-, ht⟩ := h.offered ho
      exact ⟨ht.roots, ht.frames, ht.entered⟩
    | @added n rest _ hs hadd =>
      have hframes := h.frames
      rw [hs] at hframes
      refine ⟨h.roots, (List.forall_mem_cons.1 hframes).2, fun m hm => h.entered m ?_⟩
      simp only [State.entered, hc.onPath_cons hs, List.erase_cons_head, List.mem_append,
        List.mem_cons] at hm ⊢
      tauto
  · cases hm with
    | @entered n t y _ edges ho hk hv he =>
      obtain ⟨log₁, w₁⟩ := y
      rw [logging_edgesFrom he] at hlog
      have hedges := hlog n edges (List.mem_append_right _ (List.mem_singleton_self _))
      obtain ⟨hn, ht⟩ := h.offered ho
      refine ⟨ht.roots, List.forall_mem_cons.2 ⟨fun m hm => ?_, ht.frames⟩,
        List.forall_mem_cons.2 ⟨hn, ht.entered⟩⟩
      obtain ⟨e, he, rfl⟩ := mem_targets.1 hm
      exact hedges e he

/-! ## The number of moves -/

/-- The moves that an answer makes room for: one for each target of the edges, and one that adds
their node. -/
def Call.work : Call ε ν → Nat
  | edgesFrom _ (.ok edges) => (targets edges).length + 1
  | _ => 0

/-- The moves that the answers of a log make room for. -/
def workload (log : List (Call ε ν)) : Nat := (log.map Call.work).sum

theorem workload_concat (log : List (Call ε ν)) (c : Call ε ν) :
    workload (log ++ [c]) = workload log + c.work := by
  simp [workload]

/-- A move is one less to make, and there are as many more as its answers make room for. -/
theorem pending_advance (ha : Advances v.logging s (log, w) s' x) :
    s'.pending + 1 + workload log = s.pending + workload x.1 := by
  have hm := step_moves v.logging s (log, w)
  rcases ha with ha | ha <;> rw [ha] at hm
  · cases hm with
    | known ho hk => rw [ho.pending]
    | @refused _ t _ ho hk hv =>
      rw [logging_shouldVisit hv, workload_concat, ho.pending]
      rfl
    | added hs hadd =>
      rw [logging_nodeAdded hadd, workload_concat]
      simp only [State.pending, hs, List.foldr_cons, List.length_nil, Call.work]
      omega
  · cases hm with
    | @entered n t y _ edges ho hk hv he =>
      obtain ⟨log₁, w₁⟩ := y
      obtain rfl : log₁ = _ := logging_shouldVisit hv
      rw [logging_edgesFrom he, workload_concat, workload_concat, ho.pending]
      have hpending : State.pending { t with
          onPath := n :: t.onPath, stack := ⟨n, targets edges⟩ :: t.stack } =
          (targets edges).length + 1 + t.pending := rfl
      rw [hpending]
      simp only [Call.work]
      omega

theorem workload_le_of_failed {failure : Failure ν ε}
    (hstep : step v.logging s (log, w) = (.failed failure, x)) : workload log ≤ workload x.1 := by
  have hm := step_moves v.logging s (log, w)
  rw [hstep] at hm
  cases hm with
  | visitFailed ho hk hv =>
    rw [logging_shouldVisit hv, workload_concat]
    exact Nat.le_add_right _ _
  | @edgesFailed _ _ _ y _ ho hk hv he =>
    obtain ⟨log₁, w₁⟩ := y
    obtain rfl : log₁ = _ := logging_shouldVisit hv
    rw [logging_edgesFrom he, workload_concat, workload_concat]
    omega
  | addFailed hs hadd =>
    rw [logging_nodeAdded hadd, workload_concat]
    exact Nat.le_add_right _ _

/-- A search that ends does so within the moves that its state and the answers make room for, and a
last one. -/
theorem exists_movesFrom_le {out : Outcome ν ε} {k : Nat}
    (hk : movesFrom v.logging k s (log, w) = (.ending out, x)) :
    ∃ j, j + workload log ≤ s.pending + workload x.1 + 1 ∧
      movesFrom v.logging j s (log, w) = (.ending out, x) := by
  induction k generalizing s log w with
  | zero => cases out <;> cases hk
  | succ k ih =>
    rw [movesFrom] at hk
    rcases hs : step v.logging s (log, w) with ⟨s' | s' | result | failure, log', w'⟩
    · rw [hs] at hk
      obtain ⟨j, hle, hj⟩ := ih hk
      have hpending : s'.pending + 1 + workload log = s.pending + workload log' :=
        pending_advance (.inl hs)
      exact ⟨j + 1, by omega, by rw [movesFrom, hs]; exact hj⟩
    · rw [hs] at hk
      obtain ⟨j, hle, hj⟩ := ih hk
      have hpending : s'.pending + 1 + workload log = s.pending + workload log' :=
        pending_advance (.inr hs)
      exact ⟨j + 1, by omega, by rw [movesFrom, hs]; exact hj⟩
    · rw [hs] at hk
      cases out <;> cases hk
      obtain ⟨hx, -⟩ := step_finished hs
      cases hx
      exact ⟨1, by simp only; omega, by rw [movesFrom, hs]; rfl⟩
    · rw [hs] at hk
      cases out <;> cases hk
      have hle := workload_le_of_failed hs
      exact ⟨1, by omega, by rw [movesFrom, hs]; rfl⟩

/-! ## Whole searches -/

/-- The calls of the first moves of a search, with their answers. -/
def callsWithin (v : Visitor σ ε ν) (roots : List ν) (w : σ) (k : Nat) : List (Call ε ν) :=
  (movesFrom v.logging k { roots } ([], w)).2.1

/-- All that a search is given to take up lies in a set: its roots, and the targets of all edges
that its visitor ever answers with. -/
structure Confined (v : Visitor σ ε ν) (roots : List ν) (w : σ) (U : Finset ν) : Prop where
  mem_roots : ∀ n ∈ roots, n ∈ U
  mem_targets : ∀ k n edges, .edgesFrom n (.ok edges) ∈ callsWithin v roots w k →
    ∀ e ∈ edges, e.target ∈ U

/-- No call of a log has failed where the search ends with a result; where it ends with a failure,
this is the failure of the last call and none has failed before. -/
def Outcome.IsFirstFailure (log : List (Call ε ν)) : Outcome ν ε → Prop
  | .ok _ => ∀ c ∈ log, c.failure? = none
  | .error failure => ∃ earlier c, log = earlier ++ [c] ∧ (∀ d ∈ earlier, d.failure? = none) ∧
      c.failure? = some failure

variable {roots : List ν}

/-- The moves from a state go on with the next one. -/
theorem movesFrom_succ {k : Nat} {w₁ w₂ : σ} {s₁ s₂ : State ν}
    (hk : movesFrom v k s w = (.onward s₁, w₁)) (ha : Advances v s₁ w₁ s₂ w₂) :
    movesFrom v (k + 1) s w = (.onward s₂, w₂) := by
  induction k generalizing s w with
  | zero =>
    cases hk
    rw [movesFrom]
    rcases ha with ha | ha <;> rw [ha] <;> rfl
  | succ k ih =>
    rw [movesFrom] at hk ⊢
    rcases hs : step v s w with ⟨s' | s' | result | failure, w'⟩
    · rw [hs] at hk
      exact ih hk
    · rw [hs] at hk
      exact ih hk
    · rw [hs] at hk
      cases hk
    · rw [hs] at hk
      cases hk

/-- The moves of a search lead to the state and the log, and the state has nothing outside the set. -/
structure LeadsTo (v : Visitor σ ε ν) (roots : List ν) (w : σ) (U : Finset ν) (s : State ν)
    (x : List (Call ε ν) × σ) : Prop where
  moves : ∃ k, movesFrom v.logging k { roots } ([], w) = (.onward s, x)
  consistent : s.Consistent
  within : s.Within U

theorem LeadsTo.start (h : Confined v roots w U) :
    LeadsTo v roots w U { roots } ([], w) where
  moves := ⟨0, rfl⟩
  consistent := .start roots
  within := ⟨h.mem_roots, by simp, by simp [State.entered]⟩

theorem LeadsTo.advance {w₁ : σ} (hl : LeadsTo v roots w U s (log, w₁)) (h : Confined v roots w U)
    (ha : Advances v.logging s (log, w₁) s' x) : LeadsTo v roots w U s' x := by
  obtain ⟨k, hk⟩ := hl.moves
  have hnext := movesFrom_succ hk ha
  refine ⟨⟨k + 1, hnext⟩, hl.consistent.advance ha, ?_⟩
  refine hl.within.advance hl.consistent ha fun n edges hmem => h.mem_targets (k + 1) n edges ?_
  rw [callsWithin, hnext]
  exact hmem

theorem Confined.logging_ends (h : Confined v roots w U) :
    ∃ out x, run v.logging U.card { roots } ([], w) = some (out, x) :=
  run_ends (P := LeadsTo v roots w U) (fun _ _ _ _ hl ha => hl.advance h ha)
    (fun _ _ hl => ⟨hl.consistent, hl.within.entered⟩) (.start h) (Nat.le_add_right _ _)

/-- A visitor all of whose edges lead into a set keeps a search from roots of the set within it. -/
theorem confined_of_answers (hroots : ∀ n ∈ roots, n ∈ U)
    (hedges : ∀ n w edges, (v.edgesFrom n w).1 = .ok edges → ∀ e ∈ edges, e.target ∈ U) :
    Confined v roots w U where
  mem_roots := hroots
  mem_targets k n edges hmem := by
    obtain ⟨w₁, hanswer⟩ := answered_movesFrom (List.forall_mem_nil _) k { roots } _ hmem
    exact hedges n w₁ edges hanswer

/-- What the calls of a search tell where it ends. -/
theorem isFirstFailure_of_ending {k : Nat} {out : Outcome ν ε}
    (hk : movesFrom v.logging k { roots } ([], w) = (.ending out, x)) :
    Outcome.IsFirstFailure x.1 out := by
  obtain ⟨horderly, -, haccounts⟩ := (Recorded.start roots).movesFrom k hk
  cases out with
  | ok result => exact haccounts.1
  | error failure =>
    obtain ⟨earlier, c, hlog, hc⟩ := haccounts
    refine ⟨earlier, c, hlog, fun d hd => ?_, hc⟩
    -- a call that fails is the last one, and `c` comes after `d`
    obtain ⟨before, after, rfl⟩ := List.append_of_mem hd
    by_contra hfail
    have hlast := (horderly.inPlace before d (after ++ [c]) (by simp [hlog])).fail_last hfail
    exact absurd hlast (by simp)

/-- **A search of a finite set of nodes ends**, whatever its visitor answers and however its answers
change: after finitely many moves, with a result or with the first failure of a call. No more nodes
are entered than there are in the set. -/
theorem search_of_confined_ends (h : Confined v roots w U) :
    ∃ k out w', movesFrom v k { roots } w = (.ending out, w') ∧
      k ≤ roots.length + workload (callsWithin v roots w k) + 1 ∧
      Outcome.IsFirstFailure (callsWithin v roots w k) out ∧
      search v U.card roots w = some (out, w') := by
  obtain ⟨out, ⟨log, w'⟩, hrun⟩ := h.logging_ends
  obtain ⟨k, hk⟩ := exists_movesFrom_of_run hrun
  obtain ⟨j, hle, hj⟩ := exists_movesFrom_le hk
  have hlog : callsWithin v roots w j = log := by rw [callsWithin, hj]
  refine ⟨j, out, w', ?_, ?_, ?_, ?_⟩
  · obtain ⟨log', hwatch⟩ := movesFrom_watches (logging_watches v) j { roots } [] w
    rw [hj] at hwatch
    exact Prod.ext (congrArg Prod.fst hwatch).symm (congrArg (·.2.2) hwatch).symm
  · rw [hlog]
    have hpending : State.pending { roots } = roots.length := rfl
    rw [← hpending]
    exact hle
  · rw [hlog]
    exact isFirstFailure_of_ending hj
  · rw [← search_watches (logging_watches v) U.card roots [] w, search, hrun]
    rfl

/-- A visitor that changes its mind at each call: it turns down every third node it is asked about,
its edges lead elsewhere each time and name sources that do not exist, and it fails in the end. -/
def fickle : Visitor Nat String Nat where
  edgesFrom n w := (.ok [⟨100 + w, (n + w) % 3⟩, ⟨w, (w + 1) % 3⟩], w + 1)
  nodeAdded _ w := (if 5 < w then .error "worn out" else .ok (), w + 1)
  shouldVisit _ w := (.ok (w % 3 != 2), w + 1)

theorem fickle_search_ends :
    Confined fickle [0, 2, 0] 0 {0, 1, 2} ∧
      ∃ k out w', movesFrom fickle k { roots := [0, 2, 0] } 0 = (.ending out, w') ∧
        k ≤ 3 + workload (callsWithin fickle [0, 2, 0] 0 k) + 1 ∧
        Outcome.IsFirstFailure (callsWithin fickle [0, 2, 0] 0 k) out ∧
        search fickle 3 [0, 2, 0] 0 = some (out, w') := by
  have hconfined : Confined fickle [0, 2, 0] 0 {0, 1, 2} := by
    refine confined_of_answers (by decide) fun n w edges hanswer e he => ?_
    cases hanswer
    have hmod : ∀ m, m % 3 ∈ ({0, 1, 2} : Finset Nat) := by
      intro m
      simp only [Finset.mem_insert, Finset.mem_singleton]
      omega
    simp only [List.mem_cons, List.not_mem_nil, or_false] at he
    rcases he with rfl | rfl
    · exact hmod _
    · exact hmod _
  exact ⟨hconfined, search_of_confined_ends hconfined⟩

end TableDiff.Search
