import TableDiff.Proofs.Search.Recursion

/-!
# The calls of a search

What a search asks of its visitor, over every run: one that ends, one that a failure breaks off, and
every part of one that goes on. The calls are logged with their answers (`Visitor.logging`), which
changes nothing else about a search. `Orderly` says in which order a log may hold which calls. After
any number of moves (`movesFrom`) the log is orderly, and it tells the outcome: the nodes that were
added are the result, and a failure is that of the last call (`search_calls_orderly`).

The invariant (`Recorded`) ties a state of the search to the log: what the search knows about nodes
is what the visitor has answered, and a frame of the stack has left those targets of its node that
have not been decided about.
-/

namespace TableDiff.Search

variable {ν σ ε : Type}

/-! ## Logs -/

/-- A call to a visitor with the answer that it got. -/
inductive Call (ε ν : Type) where
  | shouldVisit (n : ν) (answer : Except ε Bool)
  | edgesFrom (n : ν) (answer : Except ε (List (Edge ν)))
  | nodeAdded (n : ν) (answer : Except ε Unit)

namespace Call

def stage : Call ε ν → Stage
  | shouldVisit _ _ => .shouldVisit
  | edgesFrom _ _ => .edgesFrom
  | nodeAdded _ _ => .nodeAdded

def node : Call ε ν → ν
  | shouldVisit n _ => n
  | edgesFrom n _ => n
  | nodeAdded n _ => n

/-- The failure that a call reports, if its answer is an error. -/
def failure? : Call ε ν → Option (Failure ν ε)
  | shouldVisit n (.error cause) => some ⟨.shouldVisit, n, cause⟩
  | edgesFrom n (.error cause) => some ⟨.edgesFrom, n, cause⟩
  | nodeAdded n (.error cause) => some ⟨.nodeAdded, n, cause⟩
  | _ => none

/-- The node that the visitor let the search enter by its answer. -/
def entered? : Call ε ν → Option ν
  | shouldVisit n (.ok true) => some n
  | _ => none

/-- The node that the visitor turned down by its answer. -/
def rejected? : Call ε ν → Option ν
  | shouldVisit n (.ok false) => some n
  | _ => none

/-- The node that was added to the result by the call. -/
def added? : Call ε ν → Option ν
  | nodeAdded n (.ok ()) => some n
  | _ => none

end Call

/-- The visitor that also logs its calls with their answers, in their order. -/
def Visitor.logging (v : Visitor σ ε ν) : Visitor (List (Call ε ν) × σ) ε ν where
  shouldVisit n w :=
    let (r, s) := v.shouldVisit n w.2
    (r, w.1 ++ [.shouldVisit n r], s)
  edgesFrom n w :=
    let (r, s) := v.edgesFrom n w.2
    (r, w.1 ++ [.edgesFrom n r], s)
  nodeAdded n w :=
    let (r, s) := v.nodeAdded n w.2
    (r, w.1 ++ [.nodeAdded n r], s)

theorem logging_watches (v : Visitor σ ε ν) : v.logging.Watches v :=
  ⟨fun _ _ _ => ⟨_, rfl⟩, fun _ _ _ => ⟨_, rfl⟩, fun _ _ _ => ⟨_, rfl⟩⟩

variable {v : Visitor σ ε ν} {w : σ} {log : List (Call ε ν)} {c : Call ε ν} {n : ν}

theorem logging_shouldVisit {r : Except ε Bool} {x : List (Call ε ν) × σ}
    (h : v.logging.shouldVisit n (log, w) = (r, x)) : x.1 = log ++ [.shouldVisit n r] := by
  cases h
  rfl

theorem logging_edgesFrom {r : Except ε (List (Edge ν))} {x : List (Call ε ν) × σ}
    (h : v.logging.edgesFrom n (log, w) = (r, x)) : x.1 = log ++ [.edgesFrom n r] := by
  cases h
  rfl

theorem logging_nodeAdded {r : Except ε Unit} {x : List (Call ε ν) × σ}
    (h : v.logging.nodeAdded n (log, w) = (r, x)) : x.1 = log ++ [.nodeAdded n r] := by
  cases h
  rfl

/-! ## What a log tells -/

/-- The nodes that the calls of one stage are about. -/
def nodesAt (stage : Stage) (log : List (Call ε ν)) : List ν :=
  (log.filter (·.stage = stage)).map (·.node)

def enteredNodes (log : List (Call ε ν)) : List ν := log.filterMap Call.entered?

def rejectedNodes (log : List (Call ε ν)) : List ν := log.filterMap Call.rejected?

def addedNodes (log : List (Call ε ν)) : List ν := log.filterMap Call.added?

/-- At this time a node has been added or turned down, or it is on the current path: entered and not
yet added. -/
def DecidedOrOnPath (log : List (Call ε ν)) (n : ν) : Prop :=
  n ∈ addedNodes log ∨ n ∈ rejectedNodes log ∨ n ∈ enteredNodes log ∧ n ∉ addedNodes log

/-- The edges of a node are known, and their targets other than the node itself have been decided
about or are on the current path. -/
def TargetsFollowed (log : List (Call ε ν)) (n : ν) : Prop :=
  ∃ edges, .edgesFrom n (.ok edges) ∈ log ∧
    ∀ e ∈ edges, e.target ≠ n → DecidedOrOnPath log e.target

/-- A call stands where it may, between the calls before it and those after it. -/
structure Call.InPlace (earlier later : List (Call ε ν)) (c : Call ε ν) : Prop where
  /-- When a node has been let in, the next call asks for its edges. -/
  edges_next : ∀ n, c = .shouldVisit n (.ok true) →
    later = [] ∨ ∃ answer rest, later = .edgesFrom n answer :: rest
  /-- Edges are asked for only then. -/
  edges_only : ∀ n answer, c = .edgesFrom n answer →
    ∃ before, earlier = before ++ [.shouldVisit n (.ok true)]
  add_after : ∀ n answer, c = .nodeAdded n answer → TargetsFollowed earlier n
  fail_last : c.failure? ≠ none → later = []

/-- A log that a search may leave, ended or not: no node is asked about twice at one stage, and
every call is in its place. -/
structure Orderly (log : List (Call ε ν)) : Prop where
  once : ∀ stage, (nodesAt stage log).Nodup
  inPlace : ∀ earlier c later, log = earlier ++ c :: later → c.InPlace earlier later

theorem nodesAt_append (stage : Stage) (log calls : List (Call ε ν)) :
    nodesAt stage (log ++ calls) = nodesAt stage log ++ nodesAt stage calls := by
  simp [nodesAt]

theorem enteredNodes_append (log calls : List (Call ε ν)) :
    enteredNodes (log ++ calls) = enteredNodes log ++ enteredNodes calls :=
  List.filterMap_append

theorem rejectedNodes_append (log calls : List (Call ε ν)) :
    rejectedNodes (log ++ calls) = rejectedNodes log ++ rejectedNodes calls :=
  List.filterMap_append

theorem addedNodes_append (log calls : List (Call ε ν)) :
    addedNodes (log ++ calls) = addedNodes log ++ addedNodes calls :=
  List.filterMap_append

theorem nodesAt_nodeAdded (h : ∀ c ∈ log, c.failure? = none) :
    nodesAt .nodeAdded log = addedNodes log := by
  induction log with
  | nil => rfl
  | cons c log ih =>
    obtain ⟨hc, hlog⟩ := List.forall_mem_cons.1 h
    have ih := ih hlog
    unfold nodesAt addedNodes at ih ⊢
    rcases c with ⟨m, a⟩ | ⟨m, a⟩ | ⟨m, _ | _⟩
    · exact ih
    · exact ih
    · cases hc
    · exact congrArg (m :: ·) ih

theorem mem_nodesAt_shouldVisit (h : ∀ c ∈ log, c.failure? = none)
    (hn : n ∈ nodesAt .shouldVisit log) : n ∈ enteredNodes log ∨ n ∈ rejectedNodes log := by
  obtain ⟨c, hc, rfl⟩ := List.mem_map.1 hn
  obtain ⟨hc, hstage⟩ := List.mem_filter.1 hc
  have hfail := h c hc
  rcases c with ⟨m, _ | _ | _⟩ | ⟨m, a⟩ | ⟨m, a⟩
  · cases hfail
  · exact .inr (List.mem_filterMap.2 ⟨_, hc, rfl⟩)
  · exact .inl (List.mem_filterMap.2 ⟨_, hc, rfl⟩)
  · cases of_decide_eq_true hstage
  · cases of_decide_eq_true hstage

/-! ## One more call -/

/-- A log that ends with one more call is split at a call: at the last one or at one before. -/
theorem forall_split_concat {P : List (Call ε ν) → Call ε ν → List (Call ε ν) → Prop}
    (hlast : P log c []) (hbefore : ∀ earlier d later, log = earlier ++ d :: later →
      P earlier d (later ++ [c])) :
    ∀ earlier d later, log ++ [c] = earlier ++ d :: later → P earlier d later := by
  intro earlier d later h
  rcases List.eq_nil_or_concat later with rfl | ⟨rest, x, rfl⟩
  · obtain ⟨rfl, hd⟩ := List.append_inj' h rfl
    cases hd
    exact hlast
  · rw [List.concat_eq_append, ← List.cons_append, ← List.append_assoc] at h
    obtain ⟨hlog, hx⟩ := List.append_inj' h rfl
    cases hx
    rw [List.concat_eq_append]
    exact hbefore earlier d rest hlog

theorem Orderly.concat (h : Orderly log) (hgoing : ∀ d ∈ log, d.failure? = none)
    (hwaiting : ∀ n, log.getLast? = some (.shouldVisit n (.ok true)) →
      ∃ answer, c = .edgesFrom n answer)
    (hnew : c.node ∉ nodesAt c.stage log) (hc : c.InPlace log []) : Orderly (log ++ [c]) where
  once stage := by
    rw [nodesAt_append]
    by_cases hstage : c.stage = stage
    · subst hstage
      have hc : nodesAt c.stage [c] = [c.node] := by simp [nodesAt]
      rw [hc, List.nodup_append]
      refine ⟨h.once _, List.nodup_singleton _, ?_⟩
      intro a ha b hb hab
      rw [hab, List.mem_singleton.1 hb] at ha
      exact hnew ha
    · have hc : nodesAt stage [c] = [] := by simp [nodesAt, hstage]
      rw [hc, List.append_nil]
      exact h.once stage
  inPlace := by
    apply forall_split_concat
    · exact hc
    · intro earlier d later hlog
      -- what stands before an old call is as it was, so only its look ahead is affected
      have hd := h.inPlace earlier d later hlog
      refine ⟨?_, hd.edges_only, hd.add_after, ?_⟩
      · rintro n rfl
        rcases hd.edges_next n rfl with rfl | ⟨answer, rest, rfl⟩
        · obtain ⟨answer, rfl⟩ := hwaiting n (by simp [hlog])
          exact .inr ⟨answer, [], rfl⟩
        · exact .inr ⟨answer, rest ++ [c], rfl⟩
      · intro hfail
        exact absurd (hgoing d (by simp [hlog])) hfail

/-! ## States and their logs -/

/-- No node that has been let in waits for the question about its edges. -/
def Settled (log : List (Call ε ν)) : Prop :=
  ∀ n, log.getLast? ≠ some (.shouldVisit n (.ok true))

/-- What the state knows about nodes is what the visitor has answered. -/
structure State.Follows (s : State ν) (log : List (Call ε ν)) : Prop where
  result_eq : s.result = addedNodes log
  mem_rejected : ∀ n, n ∈ s.rejected ↔ n ∈ rejectedNodes log
  mem_onPath : ∀ n, n ∈ s.onPath ↔ n ∈ enteredNodes log ∧ n ∉ addedNodes log

variable {s t : State ν} {rest : List (Frame ν)}

theorem State.Follows.offered (h : s.Follows log) (ho : Offers s n t) : t.Follows log := by
  cases ho with
  | target hs => exact ⟨h.result_eq, h.mem_rejected, h.mem_onPath⟩
  | root hs hr => exact ⟨h.result_eq, h.mem_rejected, h.mem_onPath⟩

theorem State.Follows.refused (h : t.Follows log) : State.Follows
    { t with rejected := n :: t.rejected } (log ++ [.shouldVisit n (.ok false)]) := by
  refine ⟨?_, fun m => ?_, fun m => ?_⟩
  · rw [addedNodes_append]
    exact h.result_eq.trans (List.append_nil _).symm
  · rw [rejectedNodes_append, List.mem_append, ← h.mem_rejected]
    exact List.mem_cons.trans (by rw [or_comm, ← List.mem_singleton]; rfl)
  · rw [enteredNodes_append, addedNodes_append]
    simpa [enteredNodes, addedNodes, Call.entered?, Call.added?] using h.mem_onPath m

theorem State.Follows.entered {stack : List (Frame ν)} {edges : List (Edge ν)}
    (h : t.Follows log) (hn : n ∉ addedNodes log) : State.Follows
    { t with onPath := n :: t.onPath, stack }
    (log ++ [.shouldVisit n (.ok true)] ++ [.edgesFrom n (.ok edges)]) := by
  have hentered : enteredNodes (log ++ [.shouldVisit n (.ok true)] ++
      [.edgesFrom n (.ok edges)]) = enteredNodes log ++ [n] := by
    simp [enteredNodes, Call.entered?]
  have hadded : addedNodes (log ++ [.shouldVisit n (.ok true)] ++
      [.edgesFrom n (.ok edges)]) = addedNodes log := by
    simp [addedNodes, Call.added?]
  refine ⟨?_, fun m => ?_, fun m => ?_⟩
  · rw [hadded]
    exact h.result_eq
  · simpa [rejectedNodes, Call.rejected?] using h.mem_rejected m
  · rw [hentered, hadded, List.mem_append, List.mem_singleton, or_and_right, ← h.mem_onPath,
      List.mem_cons, or_comm]
    refine or_congr_right (iff_self_and.2 ?_)
    rintro rfl
    exact hn

variable [DecidableEq ν]

theorem State.Follows.added {stack : List (Frame ν)} {accepted : List ν} (h : s.Follows log)
    (hnodup : s.onPath.Nodup) : State.Follows
    { s with stack, accepted, onPath := s.onPath.erase n, result := s.result ++ [n] }
    (log ++ [.nodeAdded n (.ok ())]) := by
  refine ⟨?_, fun m => ?_, fun m => ?_⟩
  · rw [addedNodes_append, ← h.result_eq]
    rfl
  · simpa [rejectedNodes, Call.rejected?] using h.mem_rejected m
  · rw [hnodup.mem_erase_iff, h.mem_onPath, enteredNodes_append, addedNodes_append]
    show m ≠ n ∧ _ ↔ m ∈ enteredNodes log ++ [] ∧ m ∉ addedNodes log ++ [n]
    rw [List.append_nil, List.mem_append, List.mem_singleton, not_or]
    tauto

/-- A state that a search has reached with the calls of a log. -/
structure Recorded (s : State ν) (log : List (Call ε ν)) : Prop where
  consistent : s.Consistent
  orderly : Orderly log
  going : ∀ c ∈ log, c.failure? = none
  settled : Settled log
  asked : nodesAt .edgesFrom log = enteredNodes log
  follows : s.Follows log
  frames : ∀ f ∈ s.stack, ∃ edges, .edgesFrom f.node (.ok edges) ∈ log ∧
    ∀ e ∈ edges, e.target ∈ f.targets ∨ s.isKnown e.target = true

namespace Recorded

theorem start (roots : List ν) : Recorded { roots } ([] : List (Call ε ν)) where
  consistent := .start roots
  orderly := ⟨fun stage => .nil, by simp⟩
  going := by simp
  settled := by simp [Settled]
  asked := rfl
  follows := ⟨rfl, by simp [rejectedNodes], by simp [enteredNodes]⟩
  frames := by simp

theorem isKnown_iff (h : Recorded s log) : s.isKnown n = true ↔ DecidedOrOnPath log n := by
  rw [State.isKnown_iff, h.consistent.mem_accepted, h.follows.result_eq, h.follows.mem_rejected,
    h.follows.mem_onPath]
  rfl

theorem undecided (h : Recorded s log) (hk : s.isKnown n = false) : ¬ DecidedOrOnPath log n := by
  rw [← h.isKnown_iff, hk]
  exact Bool.false_ne_true

theorem notMem_entered (h : Recorded s log) (hk : s.isKnown n = false) : n ∉ enteredNodes log := by
  intro hn
  by_cases ha : n ∈ addedNodes log
  · exact h.undecided hk (.inl ha)
  · exact h.undecided hk (.inr (.inr ⟨hn, ha⟩))

/-! ### The log after a further call -/

theorem visit (h : Recorded s log) (hk : s.isKnown n = false) (answer : Except ε Bool) :
    Orderly (log ++ [.shouldVisit n answer]) := by
  apply h.orderly.concat h.going
  · intro m hm
    exact absurd hm (h.settled m)
  · intro hn
    rcases mem_nodesAt_shouldVisit h.going hn with hn | hn
    · exact h.notMem_entered hk hn
    · exact h.undecided hk (.inr (.inl hn))
  · exact ⟨fun _ _ => .inl rfl, fun _ _ hc => (nomatch hc), fun _ _ hc => (nomatch hc),
      fun _ => rfl⟩

theorem ask (h : Recorded s log) (hk : s.isKnown n = false)
    (answer : Except ε (List (Edge ν))) :
    Orderly (log ++ [.shouldVisit n (.ok true)] ++ [.edgesFrom n answer]) := by
  apply (h.visit hk (.ok true)).concat
  · intro c hc
    rcases List.mem_append.1 hc with hc | hc
    · exact h.going c hc
    · rw [List.mem_singleton.1 hc]
      rfl
  · intro m hm
    rw [List.getLast?_concat] at hm
    cases hm
    exact ⟨answer, rfl⟩
  · rw [nodesAt_append]
    show n ∉ nodesAt .edgesFrom log ++ []
    rw [List.append_nil, h.asked]
    exact h.notMem_entered hk
  · refine ⟨fun _ hc => (nomatch hc), fun m a hc => ?_, fun _ _ hc => (nomatch hc), fun _ => rfl⟩
    cases hc
    exact ⟨log, rfl⟩

theorem add (h : Recorded s log) (hs : s.stack = ⟨n, []⟩ :: rest) (answer : Except ε Unit) :
    Orderly (log ++ [.nodeAdded n answer]) := by
  apply h.orderly.concat h.going
  · intro m hm
    exact absurd hm (h.settled m)
  · intro hn
    change n ∈ nodesAt .nodeAdded log at hn
    have hpath : n ∈ s.onPath := by simp [h.consistent.onPath_cons hs]
    rw [nodesAt_nodeAdded h.going] at hn
    exact ((h.follows.mem_onPath n).1 hpath).2 hn
  · refine ⟨fun _ hc => (nomatch hc), fun _ _ hc => (nomatch hc), fun m a hc => ?_, fun _ => rfl⟩
    cases hc
    obtain ⟨edges, hedges, htargets⟩ := h.frames ⟨n, []⟩ (by simp [hs])
    refine ⟨edges, hedges, fun e he _ => ?_⟩
    rcases htargets e he with hmem | hknown
    · cases hmem
    · exact h.isKnown_iff.1 hknown

end Recorded

/-! ## One move -/

namespace Recorded

/-- The frames that are left when a node is taken up have their targets in order as soon as the node
is known. -/
theorem frames_offered (h : Recorded s log) (ho : Offers s n t) {s' : State ν}
    {log' : List (Call ε ν)} (hlog : log ⊆ log')
    (hknown : ∀ m, s.isKnown m = true ∨ m = n → s'.isKnown m = true) : ∀ f ∈ t.stack,
    ∃ edges, .edgesFrom f.node (.ok edges) ∈ log' ∧
      ∀ e ∈ edges, e.target ∈ f.targets ∨ s'.isKnown e.target = true := by
  intro f hf
  cases ho with
  | @target m _ more rest hs =>
    rcases List.mem_cons.1 hf with rfl | hf
    · obtain ⟨edges, hedges, htargets⟩ := h.frames ⟨m, n :: more⟩ (by simp [hs])
      refine ⟨edges, hlog hedges, fun e he => ?_⟩
      rcases htargets e he with hmem | hk
      · rcases List.mem_cons.1 hmem with heq | hmem
        · exact .inr (hknown _ (.inr heq))
        · exact .inl hmem
      · exact .inr (hknown _ (.inl hk))
    · obtain ⟨edges, hedges, htargets⟩ := h.frames f (by simp [hs, hf])
      exact ⟨edges, hlog hedges, fun e he => (htargets e he).imp_right (hknown _ ∘ .inl)⟩
  | root hs hr =>
    obtain ⟨edges, hedges, htargets⟩ := h.frames f hf
    exact ⟨edges, hlog hedges, fun e he => (htargets e he).imp_right (hknown _ ∘ .inl)⟩

/-- A node that is known already is passed over. -/
theorem known (h : Recorded s log) (ho : Offers s n t) (hk : s.isKnown n = true) :
    Recorded t log where
  consistent := h.consistent.offered ho
  orderly := h.orderly
  going := h.going
  settled := h.settled
  asked := h.asked
  follows := h.follows.offered ho
  frames := by
    apply h.frames_offered ho (List.Subset.refl log)
    intro m hm
    rw [ho.isKnown_eq]
    rcases hm with hm | rfl
    · exact hm
    · exact hk

theorem going_concat (h : Recorded s log) (hc : c.failure? = none) :
    ∀ d ∈ log ++ [c], d.failure? = none := by
  intro d hd
  rcases List.mem_append.1 hd with hd | hd
  · exact h.going d hd
  · rw [List.mem_singleton.1 hd]
    exact hc

/-- A node that the visitor turns down is remembered. -/
theorem refused (h : Recorded s log) (ho : Offers s n t) (hk : s.isKnown n = false)
    (hc : State.Consistent { t with rejected := n :: t.rejected }) :
    Recorded { t with rejected := n :: t.rejected } (log ++ [.shouldVisit n (.ok false)]) where
  consistent := hc
  orderly := h.visit hk (.ok false)
  going := h.going_concat rfl
  settled m := by simp
  asked := by
    rw [nodesAt_append, enteredNodes_append, h.asked]
    rfl
  follows := (h.follows.offered ho).refused
  frames := by
    apply h.frames_offered ho (List.subset_append_left _ _)
    intro m hm
    rw [← ho.isKnown_eq, State.isKnown_iff] at hm
    rw [State.isKnown_iff, List.mem_cons]
    tauto

/-- A node that is let in is put on the path, with the targets of its edges to follow. -/
theorem entered [Ord ν] {edges : List (Edge ν)} (h : Recorded s log) (ho : Offers s n t)
    (hk : s.isKnown n = false)
    (hc : State.Consistent
      { t with onPath := n :: t.onPath, stack := ⟨n, targets edges⟩ :: t.stack }) :
    Recorded { t with onPath := n :: t.onPath, stack := ⟨n, targets edges⟩ :: t.stack }
      (log ++ [.shouldVisit n (.ok true)] ++ [.edgesFrom n (.ok edges)]) where
  consistent := hc
  orderly := h.ask hk (.ok edges)
  going := by
    intro c hc
    rcases List.mem_append.1 hc with hc | hc
    · exact h.going_concat rfl c hc
    · rw [List.mem_singleton.1 hc]
      rfl
  settled m := by simp
  asked := by
    simp only [nodesAt_append, enteredNodes_append, h.asked]
    simp [nodesAt, enteredNodes, Call.stage, Call.node, Call.entered?]
  follows := (h.follows.offered ho).entered fun hn => h.undecided hk (.inl hn)
  frames f hf := by
    rcases List.mem_cons.1 hf with rfl | hf
    · exact ⟨edges, by simp, fun e he => .inl (mem_targets.2 ⟨e, he, rfl⟩)⟩
    · refine h.frames_offered ho (fun c hc => by simp [hc]) (fun m hm => ?_) f hf
      rw [← ho.isKnown_eq, State.isKnown_iff] at hm
      rw [State.isKnown_iff, List.mem_cons]
      tauto

/-- A node that has no target left to follow leaves the path for the result. -/
theorem added (h : Recorded s log) (hs : s.stack = ⟨n, []⟩ :: rest)
    (hc : State.Consistent
      { s with stack := rest, accepted := n :: s.accepted, onPath := s.onPath.erase n
               result := s.result ++ [n] }) :
    Recorded
      { s with stack := rest, accepted := n :: s.accepted, onPath := s.onPath.erase n
               result := s.result ++ [n] } (log ++ [.nodeAdded n (.ok ())]) where
  consistent := hc
  orderly := h.add hs (.ok ())
  going := h.going_concat rfl
  settled m := by simp
  asked := by
    rw [nodesAt_append, enteredNodes_append, h.asked]
    rfl
  follows := by
    apply h.follows.added
    exact (List.nodup_append.1 (List.nodup_append.1 h.consistent.nodup).1).1
  frames f hf := by
    obtain ⟨edges, hedges, htargets⟩ := h.frames f (by simp [hs, hf])
    refine ⟨edges, List.mem_append_left _ hedges, fun e he => (htargets e he).imp_right ?_⟩
    intro hknown
    rw [State.isKnown_iff] at hknown ⊢
    by_cases hen : e.target = n
    · exact .inl (List.mem_cons.2 (.inl hen))
    · rw [List.mem_cons, List.mem_erase_of_ne hen]
      tauto

end Recorded

section Step

variable [Ord ν] {s' : State ν} {x : List (Call ε ν) × σ}

theorem Recorded.advance (h : Recorded s log) (ha : Advances v.logging s (log, w) s' x) :
    Recorded s' x.1 := by
  have hc := h.consistent.advance ha
  have hm := step_moves v.logging s (log, w)
  rcases ha with ha | ha <;> rw [ha] at hm
  · cases hm with
    | known ho hk => exact h.known ho hk
    | refused ho hk hv =>
      rw [logging_shouldVisit hv]
      exact h.refused ho hk hc
    | added hs hadd =>
      rw [logging_nodeAdded hadd]
      exact h.added hs hc
  · cases hm with
    | @entered _ _ y _ _ ho hk hv he =>
      obtain ⟨log₁, w₁⟩ := y
      obtain rfl : log₁ = _ := logging_shouldVisit hv
      rw [logging_edgesFrom he]
      exact h.entered ho hk hc

/-- A failure is that of the last call, and the log is orderly up to it. -/
theorem Recorded.fail {failure : Failure ν ε} (h : Recorded s log)
    (hstep : step v.logging s (log, w) = (.failed failure, x)) :
    Orderly x.1 ∧ nodesAt .edgesFrom x.1 = enteredNodes x.1 ∧
      ∃ earlier c, x.1 = earlier ++ [c] ∧ c.failure? = some failure := by
  have hm := step_moves v.logging s (log, w)
  rw [hstep] at hm
  cases hm with
  | visitFailed ho hk hv =>
    rw [logging_shouldVisit hv]
    refine ⟨h.visit hk _, ?_, log, _, rfl, rfl⟩
    rw [nodesAt_append, enteredNodes_append, h.asked]
    rfl
  | @edgesFailed _ _ _ y _ ho hk hv he =>
    obtain ⟨log₁, w₁⟩ := y
    obtain rfl : log₁ = _ := logging_shouldVisit hv
    rw [logging_edgesFrom he]
    refine ⟨h.ask hk _, ?_, _, _, rfl, rfl⟩
    simp only [nodesAt_append, enteredNodes_append, h.asked]
    simp [nodesAt, enteredNodes, Call.stage, Call.node, Call.entered?]
  | addFailed hs hadd =>
    rw [logging_nodeAdded hadd]
    refine ⟨h.add hs _, ?_, log, _, rfl, rfl⟩
    rw [nodesAt_append, enteredNodes_append, h.asked]
    rfl

end Step

/-! ## Any number of moves -/

/-- What a log tells about the move that it ends with. -/
def Move.Accounts (log : List (Call ε ν)) : Move ν ε → Prop
  | onward s => (∀ c ∈ log, c.failure? = none) ∧ s.Follows log
  | entered s => (∀ c ∈ log, c.failure? = none) ∧ s.Follows log
  | finished result => (∀ c ∈ log, c.failure? = none) ∧ nodesAt .nodeAdded log = result
  | failed failure => ∃ earlier c, log = earlier ++ [c] ∧ c.failure? = some failure

variable [Ord ν]

/-- What a search from a state has come to after some moves, or where it has ended before. -/
def movesFrom (v : Visitor σ ε ν) : Nat → State ν → σ → Move ν ε × σ
  | 0, s, w => (.onward s, w)
  | k + 1, s, w =>
    match step v s w with
    | (.onward s', w') => movesFrom v k s' w'
    | (.entered s', w') => movesFrom v k s' w'
    | ended => ended

/-- The move that ends a search. -/
def Move.ending : Outcome ν ε → Move ν ε
  | .ok result => finished result
  | .error failure => failed failure

section Runs

variable {s : State ν} {w w' : σ} {out : Outcome ν ε}

theorem exists_movesFrom_of_run {limit : Nat} (hrun : run v limit s w = some (out, w')) :
    ∃ k, movesFrom v k s w = (.ending out, w') := by
  fun_induction run v limit s w with
  | case1 limit s w result w₁ hs =>
    cases hrun
    exact ⟨1, by rw [movesFrom, hs]; rfl⟩
  | case2 limit s w failure w₁ hs =>
    cases hrun
    exact ⟨1, by rw [movesFrom, hs]; rfl⟩
  | case3 limit s w s' w₁ hs _ ih =>
    obtain ⟨k, hk⟩ := ih hrun
    exact ⟨k + 1, by rw [movesFrom, hs]; exact hk⟩
  | case4 => cases hrun
  | case5 s w s' w₁ hs limit ih =>
    obtain ⟨k, hk⟩ := ih hrun
    exact ⟨k + 1, by rw [movesFrom, hs]; exact hk⟩

/-- A move enters one node at most, so as many moves enter no more nodes than that. -/
theorem run_of_movesFrom {k : Nat} (hk : movesFrom v k s w = (.ending out, w')) :
    run v k s w = some (out, w') := by
  induction k generalizing s w with
  | zero => cases out <;> cases hk
  | succ k ih =>
    rw [movesFrom] at hk
    rw [run_eq]
    rcases hs : step v s w with ⟨s' | s' | result | failure, w₁⟩
    · rw [hs] at hk
      exact run_mono (ih hk) 1
    · rw [hs] at hk
      exact ih hk
    · rw [hs] at hk
      cases out <;> cases hk
      rfl
    · rw [hs] at hk
      cases out <;> cases hk
      rfl

/-- A property that every move preserves holds in every state that a search comes to. -/
theorem movesFrom_onward {P : State ν → σ → Prop} {k : Nat} {s' : State ν}
    (hP : ∀ s w s' w', P s w → Advances v s w s' w' → P s' w') (h : P s w)
    (hk : movesFrom v k s w = (.onward s', w')) : P s' w' := by
  induction k generalizing s w with
  | zero =>
    cases hk
    exact h
  | succ k ih =>
    rw [movesFrom] at hk
    rcases hs : step v s w with ⟨t | t | result | failure, w₁⟩
    · rw [hs] at hk
      exact ih (hP _ _ _ _ h (.inl hs)) hk
    · rw [hs] at hk
      exact ih (hP _ _ _ _ h (.inr hs)) hk
    · rw [hs] at hk
      cases hk
    · rw [hs] at hk
      cases hk

end Runs

theorem movesFrom_watches {ω : Type} {u : Visitor (ω × σ) ε ν} (h : u.Watches v) (k : Nat)
    (s : State ν) (x : ω) (w : σ) :
    ∃ y, movesFrom u k s (x, w) = ((movesFrom v k s w).1, y, (movesFrom v k s w).2) := by
  induction k generalizing s x w with
  | zero => exact ⟨x, rfl⟩
  | succ k ih =>
    obtain ⟨y, hy⟩ := step_watches h s x w
    simp only [movesFrom, hy]
    rcases step v s w with ⟨s' | s' | result | failure, w₁⟩
    · exact ih s' y w₁
    · exact ih s' y w₁
    · exact ⟨y, rfl⟩
    · exact ⟨y, rfl⟩

/-- After any number of moves the log is orderly and accounts for the last one. -/
theorem Recorded.movesFrom (h : Recorded s log) (k : Nat) {m : Move ν ε}
    {x : List (Call ε ν) × σ} (hk : movesFrom v.logging k s (log, w) = (m, x)) :
    Orderly x.1 ∧ nodesAt .edgesFrom x.1 = enteredNodes x.1 ∧ m.Accounts x.1 := by
  induction k generalizing s log w with
  | zero =>
    cases hk
    exact ⟨h.orderly, h.asked, h.going, h.follows⟩
  | succ k ih =>
    rw [Search.movesFrom] at hk
    rcases hs : step v.logging s (log, w) with ⟨s' | s' | result | failure, y⟩
    · rw [hs] at hk
      exact ih (h.advance (.inl hs)) hk
    · rw [hs] at hk
      exact ih (h.advance (.inr hs)) hk
    · rw [hs] at hk
      cases hk
      obtain ⟨rfl, hresult, -⟩ := step_finished hs
      refine ⟨h.orderly, h.asked, h.going, ?_⟩
      rw [nodesAt_nodeAdded h.going, ← h.follows.result_eq, hresult]
    · rw [hs] at hk
      cases hk
      exact h.fail hs

/-- **The calls of a search are orderly**, in every run of it and after every move, whatever its
visitor answers. The log of a run that succeeds tells its result, and the log of one that fails ends
with the call that did. -/
theorem search_calls_orderly (v : Visitor σ ε ν) (roots : List ν) (w : σ) :
    (∀ k, ∃ log, movesFrom v.logging k { roots } ([], w) =
        ((movesFrom v k { roots } w).1, log, (movesFrom v k { roots } w).2) ∧
      Orderly log ∧ nodesAt .edgesFrom log = enteredNodes log ∧
      (movesFrom v k { roots } w).1.Accounts log) ∧
    ∀ out w', (∃ limit, search v limit roots w = some (out, w')) ↔
      ∃ k, movesFrom v k { roots } w = (.ending out, w') := by
  refine ⟨fun k => ?_, fun out w' => ⟨?_, ?_⟩⟩
  · obtain ⟨log, hlog⟩ := movesFrom_watches (logging_watches v) k { roots } ([] : List (Call ε ν)) w
    exact ⟨log, hlog, (Recorded.start roots).movesFrom k hlog⟩
  · rintro ⟨limit, hrun⟩
    exact exists_movesFrom_of_run hrun
  · rintro ⟨k, hk⟩
    exact ⟨k, run_of_movesFrom hk⟩

end TableDiff.Search
