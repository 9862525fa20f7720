import Mathlib.Data.Finset.Card
import TableDiff.Search

/-!
# The moves of a search

Everything that one move can do is said once, case by case, in `Moves` (`step_moves`); what holds
of all states is proved from these cases. Two rules lead from moves to whole searches: a property
that every move preserves holds where the search ends (`run_ended`), and a search that enters only
nodes of a finite set ends within the size of the set (`run_ends`).

`State.Consistent` ties the parts of a state together: the path is the nodes of the stack, the
accepted nodes are those of the result, and no node is known twice. The nodes that are taken up
after a node is entered are the targets of its edges, in the order of the set of edges
(`targets_eq_of_pairwise`).
-/

open Std

namespace TableDiff.Search

variable {ν σ ε : Type}

/-! ## Consistent states -/

/-- The parts of a state agree: the path is the nodes of the stack, the accepted nodes are those of
the result, and no node is on the path, accepted or rejected twice. -/
structure State.Consistent (s : State ν) : Prop where
  onPath_eq : s.onPath = s.stack.map (·.node)
  accepted_eq : s.accepted = s.result.reverse
  nodup : (s.onPath ++ s.accepted ++ s.rejected).Nodup

namespace State.Consistent

variable {s : State ν}

theorem start (roots : List ν) : ({ roots } : State ν).Consistent := ⟨rfl, rfl, by simp⟩

theorem result_nodup (h : s.Consistent) : s.result.Nodup := by
  have hn := (List.nodup_append.1 (List.nodup_append.1 h.nodup).1).2.1
  rw [h.accepted_eq] at hn
  exact List.nodup_reverse.1 hn

theorem mem_accepted (h : s.Consistent) {n : ν} : n ∈ s.accepted ↔ n ∈ s.result := by
  rw [h.accepted_eq, List.mem_reverse]

theorem onPath_cons (h : s.Consistent) {f : Frame ν} {rest : List (Frame ν)}
    (hs : s.stack = f :: rest) : s.onPath = f.node :: rest.map (·.node) := by
  rw [h.onPath_eq, hs, List.map_cons]

end State.Consistent

/-- The nodes that a search has entered so far. -/
def State.entered (s : State ν) : List ν := s.onPath ++ s.accepted

/-! ## What one move does -/

/-- The node that a state takes up next, and the state without it: the next target of the last
node on the path or, if the path is empty, the next root. -/
inductive Offers : State ν → ν → State ν → Prop
  | target {s : State ν} {n target : ν} {more : List ν} {rest : List (Frame ν)}
      (hs : s.stack = ⟨n, target :: more⟩ :: rest) :
      Offers s target { s with stack := ⟨n, more⟩ :: rest }
  | root {s : State ν} {root : ν} {roots : List ν}
      (hs : s.stack = []) (hr : s.roots = root :: roots) : Offers s root { s with roots }

/-- Taking up a node leaves the known nodes as they are. -/
theorem State.Consistent.offered {s t : State ν} {n : ν} (h : s.Consistent) (ho : Offers s n t) :
    t.Consistent := by
  cases ho with
  | target hs => exact ⟨by rw [h.onPath_eq, hs]; rfl, h.accepted_eq, h.nodup⟩
  | root hs hr => exact ⟨h.onPath_eq, h.accepted_eq, h.nodup⟩

variable [DecidableEq ν]

theorem State.isKnown_iff {s : State ν} {n : ν} :
    s.isKnown n = true ↔ n ∈ s.accepted ∨ n ∈ s.rejected ∨ n ∈ s.onPath := by
  simp [isKnown, or_assoc]

theorem State.isKnown_eq_false {s : State ν} {n : ν} :
    s.isKnown n = false ↔ n ∉ s.onPath ++ s.accepted ++ s.rejected := by
  simp only [isKnown, Bool.or_eq_false_iff, decide_eq_false_iff_not, List.mem_append]
  tauto

theorem Offers.isKnown_eq {s t : State ν} {n : ν} (ho : Offers s n t) (m : ν) :
    t.isKnown m = s.isKnown m := by
  cases ho <;> rfl

theorem State.Consistent.entered_length_le {s : State ν} {U : Finset ν} (h : s.Consistent)
    (hU : ∀ n ∈ s.entered, n ∈ U) : s.entered.length ≤ U.card := by
  have hn : s.entered.Nodup := (List.nodup_append.1 h.nodup).1
  rw [← List.toFinset_card_of_nodup hn]
  exact Finset.card_le_card fun n hn => hU n (List.mem_toFinset.1 hn)

variable [Ord ν]

/-! ### Targets of edges -/

theorem mem_eraseRepsBy_loop {α : Type} {r : α → α → Bool} (hr : ∀ {a b}, r a b = true → a = b)
    {x : α} : ∀ (a : α) (as acc : List α),
      x ∈ List.eraseRepsBy.loop r a as acc ↔ x ∈ a :: as ∨ x ∈ acc := by
  intro a as
  induction as generalizing a with
  | nil => intro acc; simp [List.eraseRepsBy.loop, or_comm]
  | cons b as ih =>
    intro acc
    unfold List.eraseRepsBy.loop
    split
    · rename_i hab
      rw [ih, hr hab]
      simp
    · rw [ih]
      simp only [List.mem_cons]
      tauto

theorem mem_eraseReps {α : Type} [DecidableEq α] {x : α} {as : List α} :
    x ∈ as.eraseReps ↔ x ∈ as := by
  cases as with
  | nil => rfl
  | cons a as =>
    show x ∈ List.eraseRepsBy.loop (· == ·) a as [] ↔ x ∈ a :: as
    rw [mem_eraseRepsBy_loop fun h => by simpa using h]
    simp

/-- The targets to follow are those of the edges. -/
theorem mem_targets {edges : List (Edge ν)} {b : ν} :
    b ∈ targets edges ↔ ∃ e ∈ edges, e.target = b := by
  simp only [targets, List.mem_map, mem_eraseReps, List.mem_mergeSort]

theorem targets_nil : targets ([] : List (Edge ν)) = [] := by
  simp [targets, List.eraseReps, List.eraseRepsBy]

/-! ### The order of targets -/

section Order

variable {α : Type} {cmp : α → α → Ordering}

theorem eraseRepsBy_loop_eq_append (r : α → α → Bool) (a : α) (as acc : List α) :
    List.eraseRepsBy.loop r a as acc = acc.reverse ++ List.eraseRepsBy.loop r a as [] := by
  induction as generalizing a acc with
  | nil => simp [List.eraseRepsBy.loop]
  | cons b as ih =>
    unfold List.eraseRepsBy.loop
    split
    · exact ih a acc
    · rw [ih b (a :: acc), ih b [a], List.reverse_cons, List.append_assoc]
      rfl

variable [TransCmp cmp] [LawfulEqCmp cmp]

/-- Lists in strict order with the same members are equal. -/
theorem eq_of_pairwise_lt {as bs : List α} (ha : as.Pairwise fun a b => cmp a b = .lt)
    (hb : bs.Pairwise fun a b => cmp a b = .lt) (h : ∀ x, x ∈ as ↔ x ∈ bs) : as = bs := by
  have hne : ∀ {a b : α}, cmp a b = .lt → a ≠ b := by
    rintro a b hlt rfl
    have heq : cmp a a = .eq := ReflCmp.compare_self
    rw [heq] at hlt
    cases hlt
  have hperm : as.Perm bs := (List.perm_ext_iff_of_nodup (ha.imp hne) (hb.imp hne)).2 h
  refine List.Perm.eq_of_pairwise (fun a b _ _ hab hba => ?_) ha hb hperm
  have hswap : cmp a b = (cmp b a).swap := OrientedCmp.eq_swap
  rw [hswap, hba] at hab
  cases hab

variable [DecidableEq α]

/-- A list in order becomes one in strict order when repetitions are erased. -/
theorem pairwise_eraseReps {as : List α} (h : as.Pairwise fun a b => (cmp a b).isLE = true) :
    as.eraseReps.Pairwise fun a b => cmp a b = .lt := by
  cases as with
  | nil => exact .nil
  | cons a as =>
    show (List.eraseRepsBy.loop (· == ·) a as []).Pairwise _
    induction as generalizing a with
    | nil => simp [List.eraseRepsBy.loop]
    | cons b as ih =>
      obtain ⟨ha, hb, has⟩ := (List.pairwise_cons.1 h).imp_right List.pairwise_cons.1
      unfold List.eraseRepsBy.loop
      split
      · exact ih a (List.pairwise_cons.2 ⟨fun c hc => ha c (List.mem_cons_of_mem b hc), has⟩)
      · rename_i hab
        rw [eraseRepsBy_loop_eq_append]
        refine List.pairwise_cons.2 ⟨fun c hc => ?_, ih b (List.pairwise_cons.2 ⟨hb, has⟩)⟩
        have hlt : cmp a b = .lt := by
          have hle := ha b List.mem_cons_self
          cases hcmp : cmp a b with
          | lt => rfl
          | eq => simp [LawfulEqCmp.eq_of_compare hcmp] at hab
          | gt => simp [hcmp] at hle
        rcases (mem_eraseRepsBy_loop (fun h => by simpa using h) b as []).1 hc with hc | hc
        · rcases List.mem_cons.1 hc with rfl | hc
          · exact hlt
          · exact TransCmp.lt_of_lt_of_isLE hlt (hb c hc)
        · cases hc

end Order

section Targets

variable [TransOrd ν] [LawfulEqOrd ν]

instance : TransCmp (compareEdges : Edge ν → Edge ν → Ordering) :=
  inferInstanceAs (TransCmp (compareLex (compareOn Edge.source) (compareOn Edge.target)))

instance : LawfulEqCmp (compareEdges : Edge ν → Edge ν → Ordering) where
  eq_of_compare {a b} h := by
    obtain ⟨hs, ht⟩ := Ordering.then_eq_eq.1 h
    cases a
    cases b
    cases LawfulEqOrd.eq_of_compare hs
    cases LawfulEqOrd.eq_of_compare ht
    rfl

theorem pairwise_sorted_edges (edges : List (Edge ν)) :
    (edges.mergeSort fun a b => (compareEdges a b).isLE).eraseReps.Pairwise
      fun a b => compareEdges a b = .lt := by
  apply pairwise_eraseReps
  apply List.pairwise_mergeSort
  · intro a b c hab hbc
    exact TransCmp.isLE_trans hab hbc
  · intro a b
    have hswap : compareEdges b a = (compareEdges a b).swap := OrientedCmp.eq_swap
    rw [hswap]
    cases compareEdges a b <;> rfl

/-- The targets to follow are those of the set of edges, in the order of the edges. -/
theorem targets_eq_of_pairwise {edges es : List (Edge ν)} (h : ∀ e, e ∈ es ↔ e ∈ edges)
    (hes : es.Pairwise fun a b => compareEdges a b = .lt) :
    targets edges = es.map (·.target) := by
  unfold targets
  refine congrArg (List.map _) (eq_of_pairwise_lt (pairwise_sorted_edges edges) hes fun e => ?_)
  rw [mem_eraseReps, List.mem_mergeSort, h]

/-- The targets of edges from one node are in strict order. -/
theorem pairwise_targets {edges : List (Edge ν)} {n : ν} (h : ∀ e ∈ edges, e.source = n) :
    (targets edges).Pairwise fun a b => compare a b = .lt := by
  unfold targets
  rw [List.pairwise_map]
  refine (pairwise_sorted_edges edges).imp_of_mem ?_
  intro a b ha hb hlt
  rw [mem_eraseReps, List.mem_mergeSort] at ha hb
  have hself : compare n n = .eq := ReflCmp.compare_self
  rw [compareEdges, h a ha, h b hb, hself] at hlt
  exact hlt

end Targets

/-! ### The cases of a move -/

/-- The moves of a search from a state `s` with a visitor in state `w`. -/
inductive Moves (v : Visitor σ ε ν) (s : State ν) (w : σ) : Move ν ε × σ → Prop
  | known {n : ν} {t : State ν} (ho : Offers s n t) (hk : s.isKnown n = true) :
      Moves v s w (.onward t, w)
  | refused {n : ν} {t : State ν} {w' : σ} (ho : Offers s n t) (hk : s.isKnown n = false)
      (hv : v.shouldVisit n w = (.ok false, w')) :
      Moves v s w (.onward { t with rejected := n :: t.rejected }, w')
  | entered {n : ν} {t : State ν} {w₁ w' : σ} {edges : List (Edge ν)} (ho : Offers s n t)
      (hk : s.isKnown n = false) (hv : v.shouldVisit n w = (.ok true, w₁))
      (he : v.edgesFrom n w₁ = (.ok edges, w')) :
      Moves v s w (.entered
        { t with onPath := n :: t.onPath, stack := ⟨n, targets edges⟩ :: t.stack }, w')
  | added {n : ν} {rest : List (Frame ν)} {w' : σ} (hs : s.stack = ⟨n, []⟩ :: rest)
      (ha : v.nodeAdded n w = (.ok (), w')) :
      Moves v s w (.onward
        { s with
          stack := rest
          accepted := n :: s.accepted
          onPath := s.onPath.erase n
          result := s.result ++ [n] }, w')
  | finished (hs : s.stack = []) (hr : s.roots = []) : Moves v s w (.finished s.result, w)
  | visitFailed {n : ν} {t : State ν} {cause : ε} {w' : σ} (ho : Offers s n t)
      (hk : s.isKnown n = false) (hv : v.shouldVisit n w = (.error cause, w')) :
      Moves v s w (.failed ⟨.shouldVisit, n, cause⟩, w')
  | edgesFailed {n : ν} {t : State ν} {cause : ε} {w₁ w' : σ} (ho : Offers s n t)
      (hk : s.isKnown n = false) (hv : v.shouldVisit n w = (.ok true, w₁))
      (he : v.edgesFrom n w₁ = (.error cause, w')) :
      Moves v s w (.failed ⟨.edgesFrom, n, cause⟩, w')
  | addFailed {n : ν} {rest : List (Frame ν)} {cause : ε} {w' : σ}
      (hs : s.stack = ⟨n, []⟩ :: rest) (ha : v.nodeAdded n w = (.error cause, w')) :
      Moves v s w (.failed ⟨.nodeAdded, n, cause⟩, w')

theorem moves_enter {v : Visitor σ ε ν} {s t : State ν} {n : ν} (w : σ) (ho : Offers s n t) :
    Moves v s w (enter v n t w) := by
  have hk : t.isKnown n = s.isKnown n := ho.isKnown_eq n
  unfold enter
  split
  · rename_i h
    exact .known ho (hk ▸ h)
  · rename_i h
    have h : s.isKnown n = false := by rw [← hk]; simpa using h
    split
    · exact .visitFailed ho h ‹_›
    · exact .refused ho h ‹_›
    · rename_i hv
      split
      · exact .edgesFailed ho h hv ‹_›
      · exact .entered ho h hv ‹_›

theorem step_moves (v : Visitor σ ε ν) (s : State ν) (w : σ) : Moves v s w (step v s w) := by
  unfold step
  split
  · exact moves_enter w (.target ‹_›)
  · rename_i hs
    unfold accept
    split
    · exact .addFailed hs ‹_›
    · exact .added hs ‹_›
  · rename_i hs
    split
    · exact moves_enter w (.root hs ‹_›)
    · exact .finished hs ‹_›

/-- A search finishes when no node is on the path and no root is left. -/
theorem step_finished {v : Visitor σ ε ν} {s : State ν} {w w' : σ} {result : List ν}
    (hstep : step v s w = (.finished result, w')) :
    w' = w ∧ s.result = result ∧ s.stack = [] ∧ s.roots = [] := by
  have hm := step_moves v s w
  rw [hstep] at hm
  cases hm with
  | finished hs hr => exact ⟨rfl, rfl, hs, hr⟩

/-! ## From one move to whole searches -/

/-- One move leads from the first state on to the second one. -/
def Advances (v : Visitor σ ε ν) (s : State ν) (w : σ) (s' : State ν) (w' : σ) : Prop :=
  step v s w = (.onward s', w') ∨ step v s w = (.entered s', w')

theorem State.Consistent.advance {v : Visitor σ ε ν} {s s' : State ν} {w w' : σ}
    (h : s.Consistent) (ha : Advances v s w s' w') : s'.Consistent := by
  have hm := step_moves v s w
  rcases ha with ha | ha <;> rw [ha] at hm
  · cases hm with
    | known ho hk => exact h.offered ho
    | refused ho hk hv =>
      have ht := h.offered ho
      have hn := State.isKnown_eq_false.1 hk
      refine ⟨ht.onPath_eq, ht.accepted_eq, ?_⟩
      have hp : ∀ n : ν, (s.onPath ++ s.accepted ++ n :: s.rejected).Perm
          (n :: (s.onPath ++ s.accepted ++ s.rejected)) := fun n => List.perm_middle
      cases ho <;> exact (hp _).nodup_iff.2 (List.nodup_cons.2 ⟨hn, h.nodup⟩)
    | @added n rest _ hstack =>
      have hpath := h.onPath_cons hstack
      have herase : s.onPath.erase n = rest.map (·.node) := by rw [hpath, List.erase_cons_head]
      refine ⟨herase, by simp [h.accepted_eq], ?_⟩
      have hn := h.nodup
      rw [hpath] at hn
      show (s.onPath.erase n ++ n :: s.accepted ++ s.rejected).Nodup
      rw [herase]
      exact (List.Perm.append_right _ List.perm_middle).nodup_iff.2 hn
  · cases hm with
    | entered ho hk hv he =>
      have ht := h.offered ho
      have hn := State.isKnown_eq_false.1 hk
      refine ⟨by simp [ht.onPath_eq], ht.accepted_eq, ?_⟩
      cases ho <;> exact List.nodup_cons.2 ⟨hn, h.nodup⟩

theorem entered_length_onward {v : Visitor σ ε ν} {s s' : State ν} {w w' : σ} (h : s.Consistent)
    (hs : step v s w = (.onward s', w')) : s'.entered.length = s.entered.length := by
  have hm := step_moves v s w
  rw [hs] at hm
  cases hm with
  | known ho hk => cases ho <;> rfl
  | refused ho hk hv => cases ho <;> rfl
  | added hstack ha =>
    simp [State.entered, h.onPath_cons hstack]
    omega

theorem entered_length_entered {v : Visitor σ ε ν} {s s' : State ν} {w w' : σ}
    (hs : step v s w = (.entered s', w')) : s'.entered.length = s.entered.length + 1 := by
  have hm := step_moves v s w
  rw [hs] at hm
  cases hm with
  | entered ho hk hv he => cases ho <;> rfl

section Run

variable {v : Visitor σ ε ν} {P : State ν → σ → Prop}
  (hP : ∀ s w s' w', P s w → Advances v s w s' w' → P s' w')

include hP in
/-- A property that every move preserves holds in the state in which a search ends. -/
theorem run_ended {limit : Nat} {s : State ν} {w w' : σ} {out : Outcome ν ε} (h : P s w)
    (hr : run v limit s w = some (out, w')) :
    ∃ s₁ w₁, P s₁ w₁ ∧ ((∃ result, out = .ok result ∧ step v s₁ w₁ = (.finished result, w')) ∨
      ∃ failure, out = .error failure ∧ step v s₁ w₁ = (.failed failure, w')) := by
  fun_induction run v limit s w with
  | case1 limit s w result w₁ hs =>
    cases hr
    exact ⟨s, w, h, .inl ⟨result, rfl, hs⟩⟩
  | case2 limit s w failure w₁ hs =>
    cases hr
    exact ⟨s, w, h, .inr ⟨failure, rfl, hs⟩⟩
  | case3 limit s w s' w₁ hs _ ih => exact ih (hP _ _ _ _ h (.inl hs)) hr
  | case4 => cases hr
  | case5 s w s' w₁ hs limit ih => exact ih (hP _ _ _ _ h (.inr hs)) hr

include hP in
/-- A search ends within the limit if all nodes that it may enter lie in a finite set and the limit
leaves room for those of them that it has not entered yet. -/
theorem run_ends {U : Finset ν} (hU : ∀ s w, P s w → s.Consistent ∧ ∀ n ∈ s.entered, n ∈ U)
    {limit : Nat} {s : State ν} {w : σ} (h : P s w) (hl : U.card ≤ limit + s.entered.length) :
    ∃ out w', run v limit s w = some (out, w') := by
  fun_induction run v limit s w with
  | case1 limit s w result w₁ hs => exact ⟨.ok result, w₁, rfl⟩
  | case2 limit s w failure w₁ hs => exact ⟨.error failure, w₁, rfl⟩
  | case3 limit s w s' w₁ hs _ ih =>
    exact ih (hP _ _ _ _ h (.inl hs)) (by rw [entered_length_onward (hU _ _ h).1 hs]; exact hl)
  | case4 s w s' w₁ hs =>
    -- one node more than the set has room for
    have hs' := hU _ _ (hP _ _ _ _ h (.inr hs))
    have := hs'.1.entered_length_le hs'.2
    have := entered_length_entered hs
    omega
  | case5 s w s' w₁ hs limit ih =>
    have := entered_length_entered hs
    exact ih (hP _ _ _ _ h (.inr hs)) (by omega)

end Run

end TableDiff.Search
