import Mathlib.Data.Set.Card
import Mathlib.Logic.Relation
import TableDiff.Proofs.Search.Moves

/-!
# What a search of a fixed graph finds

A visitor shows a graph (`Visitor.Shows`) if it never fails and answers every node with the same
set of edges and the same verdict whenever it is asked. If only finitely many nodes that take part
can be reached from the roots, the search ends with exactly these nodes, each once, and with the
target of every edge before the edge's source unless the edge closes a cycle
(`search_lists_reachable_in_postorder`).

The invariant (`Explores`) has three parts: all that is on the stack or in the result has been
reached from a root (`Sound`), no edge out of a node that was entered and no root is forgotten
(`Covers`), and the result is ordered. Each node of the path reaches the nodes above it, so an edge
back into the path closes a cycle.
-/

namespace TableDiff.Search

variable {ν σ ε : Type}

/-! ## Graphs -/

/-- A set of edges for every node, and which nodes take part. Of an edge that is listed for a node
only the target counts. -/
structure Graph (ν : Type) where
  edges : ν → Set (Edge ν)
  takesPart : ν → Bool

namespace Graph

/-- An edge leads from the first node to the second one, which takes part. -/
def Leads (g : Graph ν) (a b : ν) : Prop := (∃ e ∈ g.edges a, e.target = b) ∧ g.takesPart b = true

/-- A path through nodes that take part leads from the first node to the second one. -/
def Reaches (g : Graph ν) : ν → ν → Prop := Relation.ReflTransGen g.Leads

/-- A path through nodes that take part leads from one of the roots to the node. -/
def ReachedFrom (g : Graph ν) (roots : List ν) (n : ν) : Prop :=
  ∃ root ∈ roots, g.takesPart root = true ∧ g.Reaches root n

end Graph

/-- The visitor may fail; whenever it answers it shows the same graph. -/
structure Visitor.Answers (v : Visitor σ ε ν) (g : Graph ν) : Prop where
  edgesFrom : ∀ {n w edges w'}, v.edgesFrom n w = (.ok edges, w') →
    ∀ e, e ∈ edges ↔ e ∈ g.edges n
  shouldVisit : ∀ {n w b w'}, v.shouldVisit n w = (.ok b, w') → g.takesPart n = b

/-- The visitor never fails and shows the same graph whenever it is asked. -/
structure Visitor.Shows (v : Visitor σ ε ν) (g : Graph ν) : Prop where
  edgesFrom : ∀ n w, ∃ edges, (v.edgesFrom n w).1 = .ok edges ∧ ∀ e, e ∈ edges ↔ e ∈ g.edges n
  nodeAdded : ∀ n w, (v.nodeAdded n w).1 = .ok ()
  shouldVisit : ∀ n w, (v.shouldVisit n w).1 = .ok (g.takesPart n)

/-! ## The invariant -/

/-- What a state holds has been reached from the roots. -/
structure Sound (g : Graph ν) (roots : List ν) (s : State ν) : Prop where
  entered : ∀ n ∈ s.entered, g.ReachedFrom roots n
  targets : ∀ f ∈ s.stack, ∀ b ∈ f.targets, ∃ e ∈ g.edges f.node, e.target = b
  roots : ∀ r ∈ s.roots, r ∈ roots
  path : s.onPath.Pairwise fun above below => g.Reaches below above

/-- Every root and every edge out of a node of the state leads to a node that is still to be taken
up or that is accounted for. -/
structure Covers (g : Graph ν) (roots : List ν) (Known : ν → Prop) (s : State ν) : Prop where
  roots : ∀ r ∈ roots, g.takesPart r = true → r ∈ s.roots ∨ Known r
  stack : ∀ f ∈ s.stack, ∀ b, g.Leads f.node b → b ∈ f.targets ∨ Known b
  result : ∀ n ∈ s.result, ∀ b, g.Leads n b → Known b

/-- Each node of the list stands behind the nodes that it leads to, cycles excepted. -/
def Ordered (g : Graph ν) (order : List ν) : Prop :=
  ∀ u ∈ order, ∀ b, g.Leads u b → [b, u].Sublist order ∨ g.Reaches b u

/-- What holds in every state of a search of a graph. -/
structure Explores (g : Graph ν) (roots : List ν) (s : State ν) : Prop where
  consistent : s.Consistent
  sound : Sound g roots s
  covers : Covers g roots (· ∈ s.entered) s
  rejected : ∀ n ∈ s.rejected, g.takesPart n = false
  ordered : Ordered g s.result

variable {g : Graph ν} {roots : List ν} {s t : State ν} {n : ν}

theorem Explores.start (g : Graph ν) (roots : List ν) : Explores g roots { roots } where
  consistent := .start roots
  sound := ⟨by simp [State.entered], by simp, fun r hr => hr, .nil⟩
  covers := ⟨fun r hr _ => .inl hr, by simp, by simp⟩
  rejected := by simp
  ordered := by simp [Ordered]

/-! ### Taking up a node -/

theorem Sound.offered (h : Sound g roots s) (ho : Offers s n t) : Sound g roots t := by
  cases ho with
  | @target u _ more rest hs =>
    refine ⟨h.entered, fun f hf => ?_, h.roots, h.path⟩
    rcases List.mem_cons.1 hf with rfl | hf
    · exact fun b hb => h.targets ⟨u, n :: more⟩ (by simp [hs]) b (List.mem_cons_of_mem _ hb)
    · exact h.targets f (by simp [hs, hf])
  | root hs hr => exact ⟨h.entered, h.targets, fun r hm => h.roots r (by simp [hr, hm]), h.path⟩

/-- A node that is taken up has been reached from a root, and from every node on the path. -/
theorem Sound.reaches_offered (h : Sound g roots s) (hc : s.Consistent) (ho : Offers s n t)
    (hn : g.takesPart n = true) : g.ReachedFrom roots n ∧ ∀ m ∈ t.onPath, g.Reaches m n := by
  cases ho with
  | @target u _ more rest hs =>
    have hpath : s.onPath = u :: rest.map (·.node) := hc.onPath_cons hs
    have hu : u ∈ s.onPath := by simp [hpath]
    have hlead : g.Leads u n := ⟨h.targets ⟨u, n :: more⟩ (by simp [hs]) n (by simp), hn⟩
    obtain ⟨root, hroot, hpart, hreach⟩ := h.entered u (List.mem_append_left _ hu)
    refine ⟨⟨root, hroot, hpart, hreach.tail hlead⟩, fun m hm => ?_⟩
    have hm : m ∈ s.onPath := hm
    have hp := h.path
    rw [hpath] at hm hp
    rcases List.mem_cons.1 hm with rfl | hm
    · exact .single hlead
    · exact ((List.pairwise_cons.1 hp).1 m hm).tail hlead
  | root hs hr =>
    refine ⟨⟨n, h.roots n (by simp [hr]), hn, .refl⟩, fun m hm => ?_⟩
    have hm : m ∈ s.onPath := hm
    rw [hc.onPath_eq, hs] at hm
    cases hm

theorem Covers.offered {Known : ν → Prop} (h : Covers g roots Known s) (ho : Offers s n t) :
    Covers g roots (fun b => Known b ∨ b = n) t := by
  cases ho with
  | @target u _ more rest hs =>
    refine ⟨fun r hr hp => (h.roots r hr hp).imp_right .inl, fun f hf b hb => ?_,
      fun m hm b hb => .inl (h.result m hm b hb)⟩
    rcases List.mem_cons.1 hf with rfl | hf
    · rcases h.stack ⟨u, n :: more⟩ (by simp [hs]) b hb with hb | hb
      · rcases List.mem_cons.1 hb with rfl | hb
        · exact .inr (.inr rfl)
        · exact .inl hb
      · exact .inr (.inl hb)
    · exact (h.stack f (by simp [hs, hf]) b hb).imp_right .inl
  | root hs hr =>
    refine ⟨fun r hm hp => ?_, fun f hf b hb => (h.stack f hf b hb).imp_right .inl,
      fun m hm b hb => .inl (h.result m hm b hb)⟩
    rcases h.roots r hm hp with hr' | hr'
    · rcases List.mem_cons.1 (hr ▸ hr') with rfl | hr'
      · exact .inr (.inr rfl)
      · exact .inl hr'
    · exact .inr (.inl hr')

/-- Only nodes that take part need to be accounted for. -/
theorem Covers.mono {Known Known' : ν → Prop} (h : Covers g roots Known s)
    (hk : ∀ b, g.takesPart b = true → Known b → Known' b) : Covers g roots Known' s where
  roots r hr hp := (h.roots r hr hp).imp_right (hk r hp)
  stack f hf b hb := (h.stack f hf b hb).imp_right (hk b hb.2)
  result m hm b hb := hk b hb.2 (h.result m hm b hb)

/-- What has been reached is accounted for once no frame and no root is left. -/
theorem Covers.mem_of_reachedFrom {Known : ν → Prop} (h : Covers g roots Known s)
    (hroots : s.roots = []) (hknown : ∀ n, Known n → n ∈ s.result)
    (hn : g.ReachedFrom roots n) : n ∈ s.result := by
  obtain ⟨root, hroot, hpart, hreach⟩ := hn
  induction hreach with
  | refl =>
    rcases h.roots root hroot hpart with hr | hr
    · rw [hroots] at hr
      cases hr
    · exact hknown root hr
  | tail _ hlead ih => exact hknown _ (h.result _ ih _ hlead)

/-! ### One move -/

variable {v : Visitor σ ε ν} {w w' : σ}

theorem Visitor.Shows.answers (hv : v.Shows g) : v.Answers g where
  edgesFrom {n w edges w'} he e := by
    obtain ⟨edges', heq, hmem⟩ := hv.edgesFrom n w
    rw [he] at heq
    cases heq
    exact hmem e
  shouldVisit {n w b w'} h := by
    have hn := hv.shouldVisit n w
    rw [h] at hn
    cases hn
    rfl

/-- A node is added behind all that it leads to, nodes excepted from which a path leads to it. -/
theorem Ordered.add {order : List ν} (h : Ordered g order)
    (hn : ∀ b, g.Leads n b → b ∈ order ∨ g.Reaches b n) : Ordered g (order ++ [n]) := by
  intro u hu b hb
  rcases List.mem_append.1 hu with hu | hu
  · exact (h u hu b hb).imp_left fun hs => hs.trans (List.sublist_append_left ..)
  · rw [List.mem_singleton.1 hu] at hb ⊢
    exact (hn b hb).imp_left fun hs => (List.singleton_sublist.2 hs).append (.refl [n])

/-- A node that is taken up without being entered: it is known, or it takes no part. -/
theorem Explores.passed (h : Explores g roots s) (ho : Offers s n t)
    (hn : g.takesPart n = true → n ∈ s.entered) : Explores g roots t where
  consistent := h.consistent.offered ho
  sound := h.sound.offered ho
  covers := by
    have ht : t.entered = s.entered := by cases ho <;> rfl
    refine (h.covers.offered ho).mono fun b hb hk => ?_
    rw [ht]
    rcases hk with hk | rfl
    · exact hk
    · exact hn hb
  rejected := by cases ho <;> exact h.rejected
  ordered := by cases ho <;> exact h.ordered

theorem Explores.entered_of_isKnown [DecidableEq ν] (h : Explores g roots s)
    (hk : s.isKnown n = true) (hn : g.takesPart n = true) : n ∈ s.entered := by
  simp only [State.isKnown, Bool.or_eq_true, decide_eq_true_eq] at hk
  rcases hk with (hk | hk) | hk
  · exact List.mem_append_right _ hk
  · rw [h.rejected n hk] at hn
    cases hn
  · exact List.mem_append_left _ hk

/-- A node that takes no part is turned down. -/
theorem Explores.refused (h : Explores g roots s) (ho : Offers s n t)
    (hn : g.takesPart n = false)
    (hc : State.Consistent { t with rejected := n :: t.rejected }) :
    Explores g roots { t with rejected := n :: t.rejected } := by
  have ht := h.passed ho (by simp [hn])
  refine ⟨hc, ⟨ht.sound.entered, ht.sound.targets, ht.sound.roots, ht.sound.path⟩,
    ⟨ht.covers.roots, ht.covers.stack, ht.covers.result⟩, fun m hm => ?_, ht.ordered⟩
  rcases List.mem_cons.1 hm with rfl | hm
  · exact hn
  · exact ht.rejected m hm

/-- A node that takes part is entered, with the targets of its edges to be taken up. -/
theorem Explores.entered {more : List ν} (h : Explores g roots s) (ho : Offers s n t)
    (hn : g.takesPart n = true) (hmore : ∀ b, b ∈ more ↔ ∃ e ∈ g.edges n, e.target = b)
    (hc : State.Consistent { t with onPath := n :: t.onPath, stack := ⟨n, more⟩ :: t.stack }) :
    Explores g roots { t with onPath := n :: t.onPath, stack := ⟨n, more⟩ :: t.stack } := by
  obtain ⟨hfrom, hreach⟩ := h.sound.reaches_offered h.consistent ho hn
  have ht := h.sound.offered ho
  have hcov := h.covers.offered ho
  have hent : t.entered = s.entered := by cases ho <;> rfl
  have hmem : ∀ b, (b ∈ s.entered ∨ b = n) → b ∈ n :: t.onPath ++ t.accepted := by
    intro b hb
    show b ∈ n :: t.entered
    rw [hent]
    exact List.mem_cons.2 hb.symm
  refine ⟨hc, ⟨fun m hm => ?_, fun f hf => ?_, ht.roots, ?_⟩, ⟨fun r hr hp => ?_,
    fun f hf b hb => ?_, fun m hm b hb => ?_⟩, ?_, ?_⟩
  · rcases List.mem_cons.1 hm with rfl | hm
    · exact hfrom
    · exact ht.entered m hm
  · rcases List.mem_cons.1 hf with rfl | hf
    · exact fun b hb => (hmore b).1 hb
    · exact ht.targets f hf
  · exact List.pairwise_cons.2 ⟨hreach, ht.path⟩
  · exact (hcov.roots r hr hp).imp_right (hmem r)
  · rcases List.mem_cons.1 hf with rfl | hf
    · exact .inl ((hmore b).2 hb.1)
    · exact (hcov.stack f hf b hb).imp_right (hmem b)
  · exact hmem b (hcov.result m hm b hb)
  · cases ho <;> exact h.rejected
  · cases ho <;> exact h.ordered

/-- A node whose targets have all been taken up is added to the result. -/
theorem Explores.added [DecidableEq ν] {rest : List (Frame ν)} (h : Explores g roots s)
    (hs : s.stack = ⟨n, []⟩ :: rest)
    (hc : State.Consistent
      { s with stack := rest, accepted := n :: s.accepted, onPath := s.onPath.erase n
               result := s.result ++ [n] }) :
    Explores g roots
      { s with stack := rest, accepted := n :: s.accepted, onPath := s.onPath.erase n
               result := s.result ++ [n] } := by
  have hpath := h.consistent.onPath_cons hs
  have hmem : ∀ b, b ∈ s.onPath.erase n ++ n :: s.accepted ↔ b ∈ s.entered := by
    intro b
    simpa [State.entered, hpath] using or_left_comm
  have hnext : ∀ b, g.Leads n b → b ∈ s.entered := fun b hb =>
    (h.covers.stack ⟨n, []⟩ (by simp [hs]) b hb).resolve_left (by simp)
  refine ⟨hc, ⟨fun m hm => h.sound.entered m ((hmem m).1 hm), fun f hf => ?_, h.sound.roots,
    h.sound.path.sublist List.erase_sublist⟩, ⟨fun r hr hp => ?_, fun f hf b hb => ?_,
    fun m hm b hb => ?_⟩, h.rejected, h.ordered.add fun b hb => ?_⟩
  · exact h.sound.targets f (by simp [hs, hf])
  · exact (h.covers.roots r hr hp).imp_right (hmem r).2
  · exact (h.covers.stack f (by simp [hs, hf]) b hb).imp_right (hmem b).2
  · rcases List.mem_append.1 hm with hm | hm
    · exact (hmem b).2 (h.covers.result m hm b hb)
    · exact (hmem b).2 (hnext b (List.mem_singleton.1 hm ▸ hb))
  · -- a node of the path reaches the node that is added
    rcases List.mem_append.1 (hnext b hb) with hb' | hb'
    · have hp := h.sound.path
      rw [hpath] at hb' hp
      rcases List.mem_cons.1 hb' with rfl | hb'
      · exact .inr .refl
      · exact .inr ((List.pairwise_cons.1 hp).1 b hb')
    · exact .inl (h.consistent.mem_accepted.1 hb')

variable [DecidableEq ν] [Ord ν]

/-- Every move of a search of a graph keeps the invariant, also if the visitor may fail later. -/
theorem Explores.move (hv : v.Answers g) {s' : State ν} (h : Explores g roots s)
    (ha : Advances v s w s' w') : Explores g roots s' := by
  have hc := h.consistent.advance ha
  have hm := step_moves v s w
  rcases ha with ha | ha <;> rw [ha] at hm
  · cases hm with
    | known ho hk => exact h.passed ho fun hn => h.entered_of_isKnown hk hn
    | refused ho hk hvisit => exact h.refused ho (hv.shouldVisit hvisit) hc
    | added hs _ => exact h.added hs hc
  · cases hm with
    | @entered n _ _ _ edges ho hk hvisit hedges =>
      have htargets : ∀ b, b ∈ targets edges ↔ ∃ e ∈ g.edges n, e.target = b := by
        intro b
        rw [mem_targets]
        simp only [hv.edgesFrom hedges]
      exact h.entered ho (hv.shouldVisit hvisit) htargets hc

theorem Explores.advance (hv : v.Shows g) {s' : State ν} (h : Explores g roots s)
    (ha : Advances v s w s' w') : Explores g roots s' :=
  h.move hv.answers ha

/-! ## Whole searches -/

/-- A search does not fail if its visitor does not. -/
theorem step_ne_failed (hv : v.Shows g) {failure : Failure ν ε} :
    step v s w ≠ (.failed failure, w') := by
  intro hs
  have hm := step_moves v s w
  rw [hs] at hm
  cases hm with
  | @visitFailed n _ _ _ ho hk hf =>
    have h := hv.shouldVisit n w
    simp [hf] at h
  | @edgesFailed n _ _ w₁ _ ho hk hvisit hf =>
    obtain ⟨edges, h, -⟩ := hv.edgesFrom n w₁
    simp [hf] at h
  | @addFailed n _ _ _ hstack hf =>
    have h := hv.nodeAdded n w
    simp [hf] at h

/-- **A depth-first search of a graph** from which finitely many nodes can be reached ends. It
lists the nodes that are reached from the roots through nodes that take part, no others and none of
them twice; and each of them stands behind the nodes that its edges lead to, except where such a
node reaches it in turn. -/
theorem search_lists_reachable_in_postorder (hv : v.Shows g) (roots : List ν)
    (hfin : {n | g.ReachedFrom roots n}.Finite) {limit : Nat}
    (hl : {n | g.ReachedFrom roots n}.ncard ≤ limit) (w : σ) :
    ∃ order w', search v limit roots w = some (.ok order, w') ∧ order.Nodup ∧
      (∀ n, n ∈ order ↔ g.ReachedFrom roots n) ∧
      ∀ u ∈ order, ∀ e ∈ g.edges u, g.takesPart e.target = true → ¬ g.Reaches e.target u →
        [e.target, u].Sublist order := by
  have hadvance : ∀ (s : State ν) (w : σ) s' w', Explores g roots s → Advances v s w s' w' →
      Explores g roots s' := fun _ _ _ _ h ha => h.advance hv ha
  have hU : ∀ (s : State ν) (_ : σ), Explores g roots s →
      s.Consistent ∧ ∀ n ∈ s.entered, n ∈ hfin.toFinset := fun _ _ h =>
    ⟨h.consistent, fun n hn => hfin.mem_toFinset.2 (h.sound.entered n hn)⟩
  rw [Set.ncard_eq_toFinset_card _ hfin] at hl
  obtain ⟨out, w', hr⟩ := run_ends (P := fun s _ => Explores g roots s) hadvance hU
    (.start g roots) (w := w) (le_add_right hl)
  obtain ⟨s, w₁, h, ⟨order, rfl, hs⟩ | ⟨failure, -, hs⟩⟩ :=
    run_ended (P := fun s _ => Explores g roots s) hadvance (.start g roots) hr
  · have hm := step_moves v s w₁
    rw [hs] at hm
    cases hm with
    | finished hstack hroots =>
      have hresult : ∀ n, n ∈ s.entered → n ∈ s.result := by
        intro n hn
        rw [State.entered, h.consistent.onPath_eq, hstack] at hn
        exact h.consistent.mem_accepted.1 hn
      refine ⟨s.result, w', hr, h.consistent.result_nodup, fun n => ⟨fun hn => ?_, fun hn => ?_⟩,
        fun u hu e he hpart hcycle => ?_⟩
      · exact h.sound.entered n (List.mem_append_right _ (h.consistent.mem_accepted.2 hn))
      · exact h.covers.mem_of_reachedFrom hroots hresult hn
      · exact (h.ordered u hu e.target ⟨⟨e, he, rfl⟩, hpart⟩).resolve_right hcycle
  · exact absurd hs (step_ne_failed hv)

/-- The visitor that shows the given edges and verdicts. -/
def Visitor.ofEdges (edges : ν → List (Edge ν)) (takesPart : ν → Bool) : Visitor Unit Empty ν where
  edgesFrom n w := (.ok (edges n), w)
  shouldVisit n w := (.ok (takesPart n), w)

omit [DecidableEq ν] [Ord ν] in
theorem Visitor.shows_ofEdges (edges : ν → List (Edge ν)) (takesPart : ν → Bool) :
    (Visitor.ofEdges edges takesPart).Shows ⟨fun n => {e | e ∈ edges n}, takesPart⟩ where
  edgesFrom n _ := ⟨edges n, rfl, fun _ => .rfl⟩
  nodeAdded _ _ := rfl
  shouldVisit _ _ := rfl

/-- The edges of a ring of the nodes 1, 2 and 3, with one edge out of the ring. -/
def ringEdges : Nat → List (Edge Nat)
  | 1 => [⟨1, 2⟩, ⟨1, 4⟩]
  | 2 => [⟨2, 3⟩]
  | 3 => [⟨3, 1⟩]
  | _ => []

theorem ring_lists_reachable_in_postorder :
    let g : Graph Nat := ⟨fun n => {e | e ∈ ringEdges n}, (· != 4)⟩
    ∃ order w', search (.ofEdges ringEdges (· != 4)) 3 [4, 1] () = some (.ok order, w') ∧
      order.Nodup ∧ (∀ n, n ∈ order ↔ g.ReachedFrom [4, 1] n) ∧
      ∀ u ∈ order, ∀ e ∈ g.edges u, g.takesPart e.target = true → ¬ g.Reaches e.target u →
        [e.target, u].Sublist order := by
  intro g
  have hsub : {n | g.ReachedFrom [4, 1] n} ⊆ ({1, 2, 3} : Set Nat) := by
    rintro n ⟨root, hroot, hpart, hreach⟩
    induction hreach with
    | refl =>
      rcases List.mem_cons.1 hroot with rfl | hroot
      · cases hpart
      · simp [List.mem_singleton.1 hroot]
    | @tail a b _ hlead ih =>
      obtain ⟨⟨e, he, rfl⟩, hpart⟩ := hlead
      have he : e ∈ ringEdges a := he
      rcases ih with rfl | rfl | rfl <;>
        simp only [ringEdges, List.mem_cons, List.not_mem_nil, or_false] at he
      · rcases he with rfl | rfl
        · simp
        · cases hpart
      · simp [he]
      · simp [he]
  have hfin := (Set.toFinite ({1, 2, 3} : Set Nat)).subset hsub
  have hcard : {n | g.ReachedFrom [4, 1] n}.ncard ≤ 3 :=
    (Set.ncard_le_ncard hsub).trans (by
      rw [Set.ncard_eq_toFinset_card']
      decide)
  exact search_lists_reachable_in_postorder (Visitor.shows_ofEdges _ _) [4, 1] hfin hcard ()

end TableDiff.Search
