/-!
# Depth-first search

A search of a graph that is known only through a visitor: whether a node takes part, which edges
leave it, and a notice when it is added to the result. A node is added after all nodes that its
edges lead to, so the result lists what a node depends on before the node itself. An edge back to a
node on the current path is skipped; within a cycle the order is that of discovery.

The search keeps an explicit stack of nodes with the targets that they still have to follow
(`State`); `step` makes one move and `run` makes all of them. The visitor may keep a state of its
own and may fail, which ends the search. `run` gives up when more than `limit` nodes are entered,
as no graph that the visitor invents on the way needs to be finite.
-/

namespace TableDiff

/-- A directed edge: `source` depends on `target`. -/
structure Edge (ν : Type) where
  source : ν
  target : ν
  deriving DecidableEq, Repr

namespace Search

variable {ν σ ε : Type}

/-! ## Visitors -/

/-- The calls that a search makes to its visitor. -/
inductive Stage where
  | edgesFrom
  | nodeAdded
  | shouldVisit
  deriving DecidableEq, Repr

def Stage.name : Stage → String
  | edgesFrom => "edges_from"
  | nodeAdded => "node_added"
  | shouldVisit => "should_visit"

/-- The view of a graph that a search is given. The state of type `σ` is the visitor's own. -/
structure Visitor (σ ε ν : Type) where
  /-- The edges that leave a node; the list is taken as a set. -/
  edgesFrom : ν → σ → Except ε (List (Edge ν)) × σ
  /-- Called for every node that is added to the result. -/
  nodeAdded : ν → σ → Except ε Unit × σ := fun _ w => (.ok (), w)
  /-- Whether a node takes part in the search. -/
  shouldVisit : ν → σ → Except ε Bool × σ := fun _ w => (.ok true, w)

/-- The visitor that also records its calls, the last one first. -/
def Visitor.recording (v : Visitor σ ε ν) : Visitor (List (Stage × ν) × σ) ε ν where
  edgesFrom n w :=
    let (r, s) := v.edgesFrom n w.2
    (r, (.edgesFrom, n) :: w.1, s)
  nodeAdded n w :=
    let (r, s) := v.nodeAdded n w.2
    (r, (.nodeAdded, n) :: w.1, s)
  shouldVisit n w :=
    let (r, s) := v.shouldVisit n w.2
    (r, (.shouldVisit, n) :: w.1, s)

/-- A call to the visitor that failed. -/
structure Failure (ν ε : Type) where
  stage : Stage
  node : ν
  cause : ε
  deriving DecidableEq, Repr

/-- The message of a failure, given how its node and its cause are written. -/
def Failure.message (writeNode : ν → String) (writeCause : ε → String) (f : Failure ν ε) : String :=
  s!"search aborted: {f.stage.name} failed for node {writeNode f.node}: {writeCause f.cause}"

/-! ## States -/

/-- A node on the current path with the targets that it still has to follow. -/
structure Frame (ν : Type) where
  node : ν
  targets : List ν

/-- What a search has done and has still to do. -/
structure State (ν : Type) where
  /-- The nodes that were added to the result. -/
  accepted : List ν := []
  /-- The nodes that take no part. -/
  rejected : List ν := []
  /-- The nodes of the stack. -/
  onPath : List ν := []
  result : List ν := []
  /-- The current path, the last node first. -/
  stack : List (Frame ν) := []
  /-- The roots that are still to be searched from. -/
  roots : List ν := []

/-- A bound on the number of moves that a state can make without entering a node. -/
def State.pending (s : State ν) : Nat :=
  s.stack.foldr (fun f n => f.targets.length + 1 + n) s.roots.length

/-- What one move of a search leads to. -/
inductive Move (ν ε : Type) where
  /-- On to another state without entering a node. -/
  | onward (s : State ν)
  /-- On to a state with one more node on the path. -/
  | entered (s : State ν)
  | finished (result : List ν)
  | failed (failure : Failure ν ε)

variable [DecidableEq ν]

/-- Whether a node has been decided about or is on the current path. -/
def State.isKnown (s : State ν) (n : ν) : Bool := n ∈ s.accepted || n ∈ s.rejected || n ∈ s.onPath

/-! ## Moves -/

/-- Adds a node that leaves the path to the result. -/
def accept (v : Visitor σ ε ν) (n : ν) (s : State ν) (w : σ) : Move ν ε × σ :=
  match v.nodeAdded n w with
  | (.error cause, w) => (.failed ⟨.nodeAdded, n, cause⟩, w)
  | (.ok (), w) =>
    (.onward
      { s with
        accepted := n :: s.accepted
        onPath := s.onPath.erase n
        result := s.result ++ [n] }, w)

theorem accept_pending {v : Visitor σ ε ν} {n : ν} {s s' : State ν} {w w' : σ}
    (h : accept v n s w = (.onward s', w')) : s'.pending = s.pending := by
  unfold accept at h
  split at h
  · simp at h
  · simp only [Prod.mk.injEq, Move.onward.injEq] at h
    rw [← h.1]
    rfl

variable [Ord ν]

/-- The order of edges by source, then by target. -/
def compareEdges (a b : Edge ν) : Ordering :=
  (compare a.source b.source).then (compare a.target b.target)

/-- The targets of a set of edges in the order of the edges. -/
def targets (edges : List (Edge ν)) : List ν :=
  ((edges.mergeSort fun a b => (compareEdges a b).isLE).eraseReps).map (·.target)

/-- Enters a node unless it is known or takes no part. -/
def enter (v : Visitor σ ε ν) (n : ν) (s : State ν) (w : σ) : Move ν ε × σ :=
  if s.isKnown n then (.onward s, w)
  else
    match v.shouldVisit n w with
    | (.error cause, w) => (.failed ⟨.shouldVisit, n, cause⟩, w)
    | (.ok false, w) => (.onward { s with rejected := n :: s.rejected }, w)
    | (.ok true, w) =>
      match v.edgesFrom n w with
      | (.error cause, w) => (.failed ⟨.edgesFrom, n, cause⟩, w)
      | (.ok edges, w) =>
        (.entered
          { s with
            onPath := n :: s.onPath
            stack := ⟨n, targets edges⟩ :: s.stack }, w)

/-- One move: follow the next target of the last node on the path, add that node to the result if
it has none left, or start from the next root if the path is empty. -/
def step (v : Visitor σ ε ν) (s : State ν) (w : σ) : Move ν ε × σ :=
  match s.stack with
  | ⟨n, target :: more⟩ :: rest => enter v target { s with stack := ⟨n, more⟩ :: rest } w
  | ⟨n, []⟩ :: rest => accept v n { s with stack := rest } w
  | [] =>
    match s.roots with
    | root :: roots => enter v root { s with roots } w
    | [] => (.finished s.result, w)

theorem enter_pending {v : Visitor σ ε ν} {n : ν} {s s' : State ν} {w w' : σ}
    (h : enter v n s w = (.onward s', w')) : s'.pending = s.pending := by
  unfold enter at h
  split at h
  · simp only [Prod.mk.injEq, Move.onward.injEq] at h
    rw [← h.1]
  · split at h
    · simp at h
    · simp only [Prod.mk.injEq, Move.onward.injEq] at h
      rw [← h.1]
      rfl
    · split at h <;> simp at h

/-- A move that enters no node brings the end nearer. -/
theorem step_pending {v : Visitor σ ε ν} {s s' : State ν} {w w' : σ}
    (h : step v s w = (.onward s', w')) : s'.pending < s.pending := by
  unfold step at h
  split at h
  · rename_i hs
    rw [enter_pending h]
    simp [State.pending, hs]
  · rename_i hs
    rw [accept_pending h]
    simp [State.pending, hs]
  · rename_i hs
    split at h
    · rename_i hr
      rw [enter_pending h]
      simp [State.pending, hs, hr]
    · simp at h

/-! ## Whole searches -/

/-- How a search ends. -/
abbrev Outcome (ν ε : Type) := Except (Failure ν ε) (List ν)

/-- All moves from a state on, none if they enter more than `limit` nodes. -/
def run (v : Visitor σ ε ν) (limit : Nat) (s : State ν) (w : σ) : Option (Outcome ν ε × σ) :=
  match h : step v s w with
  | (.finished result, w) => some (.ok result, w)
  | (.failed failure, w) => some (.error failure, w)
  | (.onward s', w) =>
    have := step_pending h
    run v limit s' w
  | (.entered s', w) =>
    match limit with
    | 0 => none
    | limit + 1 => run v limit s' w
termination_by (limit, s.pending)

/-- The search from the given roots in their order, none if it enters more than `limit` nodes. -/
def search (v : Visitor σ ε ν) (limit : Nat) (roots : List ν) (w : σ) :
    Option (Outcome ν ε × σ) :=
  run v limit { roots } w

end Search

end TableDiff
