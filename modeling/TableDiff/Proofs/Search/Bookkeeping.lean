import Mathlib.Data.List.Chain
import Mathlib.Data.List.Nodup
import TableDiff.Proofs.Search.Termination

/-!
# The bookkeeping of a search

A search notes what it does in several places: the path, the accepted and the rejected nodes, the
result, and a stack of frames with the targets that they have left. In every state that it reaches,
whatever its visitor answers, these notes agree with each other and with the calls that were made
(`State.WellKept`, `search_states_well_kept`).

What the parts of a state say about nodes is settled by `State.Consistent`. The rest is about the
frames (`Stacked`): each one has gone through the first of the targets that its node was given
(`Frame.Passed`), and the frame above it is for the last of these (`Frame.RestsOn`).
-/

namespace TableDiff.Search

variable {ν σ ε : Type} {s t s' : State ν} {n : ν} {log log' : List (Call ε ν)}
  {f : Frame ν} {stack : List (Frame ν)}

/-- A root is taken up only when the stack is empty. -/
theorem Offers.stack_eq_nil (ho : Offers s n t) (hroots : t.roots ≠ s.roots) : s.stack = [] := by
  cases ho with
  | target hs => exact absurd rfl hroots
  | root hs hr => exact hs

variable [DecidableEq ν] [Ord ν]

/-! ## Frames -/

/-- The node of a frame was given edges whose targets are those that the frame has gone through,
followed by those that it has left. A log has the edges of a node once (`Orderly.once`). -/
def Frame.Passed (log : List (Call ε ν)) (f : Frame ν) (passed : List ν) : Prop :=
  ∃ edges, .edgesFrom f.node (.ok edges) ∈ log ∧ Search.targets edges = passed ++ f.targets

/-- The upper frame is for the target that the lower one has come to. -/
def Frame.RestsOn (log : List (Call ε ν)) (upper lower : Frame ν) : Prop :=
  ∃ passed, lower.Passed log (passed ++ [upper.node])

/-- A stack of frames, each of which is for a target of the one below it. -/
structure Stacked (log : List (Call ε ν)) (stack : List (Frame ν)) : Prop where
  passed : ∀ f ∈ stack, ∃ passed, f.Passed log passed
  rests : stack.IsChain (Frame.RestsOn log)

/-- The first frame of the stack, if there is one, has come to the target. -/
def ComesTo (log : List (Call ε ν)) (stack : List (Frame ν)) (target : ν) : Prop :=
  ∀ f ∈ stack.head?, ∃ passed, f.Passed log (passed ++ [target])

theorem Frame.Passed.mono {passed : List ν} (h : f.Passed log passed) (hlog : log ⊆ log') :
    f.Passed log' passed := by
  obtain ⟨edges, hedges, htargets⟩ := h
  exact ⟨edges, hlog hedges, htargets⟩

theorem ComesTo.mono (h : ComesTo log stack n) (hlog : log ⊆ log') : ComesTo log' stack n :=
  fun f hf => (h f hf).imp fun _ hpassed => hpassed.mono hlog

namespace Stacked

theorem mono (h : Stacked log stack) (hlog : log ⊆ log') : Stacked log' stack where
  passed f hf := (h.passed f hf).imp fun _ hpassed => hpassed.mono hlog
  rests := h.rests.imp fun _ _ hrests => hrests.imp fun _ hpassed => hpassed.mono hlog

theorem tail (h : Stacked log (f :: stack)) : Stacked log stack where
  passed g hg := h.passed g (List.mem_cons_of_mem f hg)
  rests := h.rests.tail

/-- The frame of a node that is entered, with all targets left, is put on the one that led to it. -/
theorem push {edges : List (Edge ν)} (h : Stacked log stack) (hcomes : ComesTo log stack n)
    (hedges : .edgesFrom n (.ok edges) ∈ log) : Stacked log (⟨n, targets edges⟩ :: stack) where
  passed f hf := by
    rcases List.mem_cons.1 hf with rfl | hf
    · exact ⟨[], edges, hedges, rfl⟩
    · exact h.passed f hf
  rests := List.isChain_cons.2 ⟨hcomes, h.rests⟩

/-- To take up a node is to come to it. -/
theorem offered (h : Stacked log s.stack) (ho : Offers s n t) :
    Stacked log t.stack ∧ ComesTo log t.stack n := by
  cases ho with
  | @target u _ more rest hs =>
    rw [hs] at h
    obtain ⟨passed, edges, hedges, htargets⟩ := h.passed _ List.mem_cons_self
    have hpassed : Frame.Passed log ⟨u, more⟩ (passed ++ [n]) :=
      ⟨edges, hedges, by rw [htargets, List.append_assoc]; rfl⟩
    refine ⟨⟨fun f hf => ?_, ?_⟩, fun f hf => ?_⟩
    · rcases List.mem_cons.1 hf with rfl | hf
      · exact ⟨_, hpassed⟩
      · exact h.passed f (List.mem_cons_of_mem _ hf)
    -- that the first frame rests on the one below is about its node alone
    · obtain ⟨hrests, hrest⟩ := List.isChain_cons.1 h.rests
      exact List.isChain_cons.2 ⟨hrests, hrest⟩
    · cases hf
      exact ⟨passed, hpassed⟩
  | root hs hr =>
    refine ⟨h, fun f hf => ?_⟩
    rw [hs] at hf
    cases hf

variable {v : Visitor σ ε ν} {w : σ} {x : List (Call ε ν) × σ}

/-- Every move of a search keeps its stack. -/
theorem advance (h : Stacked log s.stack) (ha : Advances v.logging s (log, w) s' x) :
    Stacked x.1 s'.stack := by
  have hm := step_moves v.logging s (log, w)
  rcases ha with ha | ha <;> rw [ha] at hm
  · cases hm with
    | known ho hk => exact (h.offered ho).1
    | refused ho hk hv =>
      rw [logging_shouldVisit hv]
      exact (h.offered ho).1.mono (List.subset_append_left _ _)
    | added hs hadd =>
      rw [logging_nodeAdded hadd]
      rw [hs] at h
      exact h.tail.mono (List.subset_append_left _ _)
  · cases hm with
    | @entered n _ y _ edges ho hk hv he =>
      obtain ⟨log₁, w₁⟩ := y
      obtain rfl : log₁ = _ := logging_shouldVisit hv
      rw [logging_edgesFrom he]
      obtain ⟨hstacked, hcomes⟩ := h.offered ho
      have hlog : log ⊆ log ++ [.shouldVisit n (.ok true)] ++ [.edgesFrom n (.ok edges)] :=
        fun c hc => by simp [hc]
      exact (hstacked.mono hlog).push (hcomes.mono hlog)
        (List.mem_append_right _ (List.mem_singleton_self _))

end Stacked

/-! ## States that a search reaches -/

/-- The notes of a search agree with each other and with the calls that it has made. -/
structure State.WellKept (s : State ν) (log : List (Call ε ν)) : Prop where
  frames_nodup : (s.stack.map (·.node)).Nodup
  mem_onPath : ∀ n, n ∈ s.onPath ↔ n ∈ s.stack.map (·.node)
  onPath_accepted : s.onPath.Disjoint s.accepted
  onPath_rejected : s.onPath.Disjoint s.rejected
  accepted_rejected : s.accepted.Disjoint s.rejected
  mem_accepted : ∀ n, n ∈ s.accepted ↔ n ∈ s.result
  result_nodup : s.result.Nodup
  stacked : Stacked log s.stack

theorem State.Consistent.wellKept (h : s.Consistent) (hs : Stacked log s.stack) :
    s.WellKept log := by
  obtain ⟨hboth, -, hrejected⟩ := List.nodup_append'.1 h.nodup
  obtain ⟨hpath, -, haccepted⟩ := List.nodup_append'.1 hboth
  obtain ⟨hpathRejected, hacceptedRejected⟩ := List.disjoint_append_left.1 hrejected
  exact
    { frames_nodup := h.onPath_eq ▸ hpath
      mem_onPath := fun n => by rw [h.onPath_eq]
      onPath_accepted := haccepted
      onPath_rejected := hpathRejected
      accepted_rejected := hacceptedRejected
      mem_accepted := fun n => h.mem_accepted
      result_nodup := h.result_nodup
      stacked := hs }

theorem stack_eq_nil_of_roots_ne {v : Visitor σ ε ν} {w w' : σ} (ha : Advances v s w s' w')
    (hroots : s'.roots ≠ s.roots) : s.stack = [] := by
  have hm := step_moves v s w
  rcases ha with ha | ha <;> rw [ha] at hm
  · cases hm with
    | known ho hk => exact ho.stack_eq_nil hroots
    | refused ho hk hv => exact ho.stack_eq_nil hroots
    | added hs hadd => exact absurd rfl hroots
  · cases hm with
    | entered ho hk hv he => exact ho.stack_eq_nil hroots

/-- **The notes of a search stay consistent.** Whatever the visitor answers, in every state that the
search comes to the frames are those of the path, no node is noted in two places, the accepted nodes
are those of the result, which has none of them twice, and each frame is for the target that the one
below it has come to. Before a root is taken up, and at the end, stack and path are empty. -/
theorem search_states_well_kept (v : Visitor σ ε ν) (roots : List ν) (w : σ) (k : Nat)
    {s : State ν} {w₁ : σ} (hk : movesFrom v k { roots } w = (.onward s, w₁)) :
    s.WellKept (callsWithin v roots w k) ∧
      (∀ s' w₂, Advances v s w₁ s' w₂ → s'.roots ≠ s.roots → s.stack = [] ∧ s.onPath = []) ∧
      ∀ result w₂, step v s w₁ = (.finished result, w₂) → s.stack = [] ∧ s.onPath = [] := by
  obtain ⟨log, hlog⟩ := movesFrom_watches (logging_watches v) k { roots } ([] : List (Call ε ν)) w
  rw [hk] at hlog
  obtain ⟨hc, hs⟩ : s.Consistent ∧ Stacked log s.stack :=
    movesFrom_onward (P := fun s x => s.Consistent ∧ Stacked x.1 s.stack)
      (fun _ _ _ _ h ha => ⟨h.1.advance ha, h.2.advance ha⟩) ⟨.start roots, by simp, .nil⟩ hlog
  have hempty : s.stack = [] → s.stack = [] ∧ s.onPath = [] := fun hstack =>
    ⟨hstack, by rw [hc.onPath_eq, hstack]; rfl⟩
  refine ⟨?_, fun s' w₂ ha hroots => hempty (stack_eq_nil_of_roots_ne ha hroots),
    fun result w₂ hstep => hempty (step_finished hstep).2.2.1⟩
  rw [callsWithin, hlog]
  exact hc.wellKept hs

/-- The second target of the first root is on top of the stack, the first one was turned down. -/
theorem fickle_search_well_kept :
    ∃ s, movesFrom fickle 3 { roots := [0, 2, 0] } 0 = (.onward s, 5) ∧
      s.stack.map (·.node) = [1, 0] ∧ s.rejected = [2] ∧
      s.WellKept (callsWithin fickle [0, 2, 0] 0 3) := by
  have hfirst : targets [⟨101, 1⟩, ⟨1, 2⟩] = List.map Edge.target [⟨1, 2⟩, ⟨101, 1⟩] :=
    targets_eq_of_pairwise (by simp [or_comm]) (by decide)
  have hsecond : targets [⟨104, 2⟩, ⟨4, 2⟩] = List.map Edge.target [⟨4, 2⟩, ⟨104, 2⟩] :=
    targets_eq_of_pairwise (by simp [or_comm]) (by decide)
  have hk : movesFrom fickle 3 { roots := [0, 2, 0] } 0 = (.onward
      { rejected := [2], onPath := [1, 0], stack := [⟨1, [2, 2]⟩, ⟨0, []⟩], roots := [2, 0] },
      5) := by
    simp [movesFrom, step, enter, fickle, State.isKnown, hfirst, hsecond]
  exact ⟨_, hk, rfl, rfl, (search_states_well_kept fickle [0, 2, 0] 0 3 hk).1⟩

end TableDiff.Search
