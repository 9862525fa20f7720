import TableDiff.Proofs.Search.Moves

/-!
# The search as a recursion

The search with an explicit stack does what a recursive procedure does that has no stack of its own
(`recursiveSearch`): visit the roots one after another, and visit a node by asking about it, asking
for its edges, visiting their targets in order (`targets_eq_of_pairwise`) and then adding the node.
Both end with the same outcome after the same calls to the visitor, and neither ends where the other
does not (`search_refines_recursion`). The calls are those that `Visitor.recording` notes, which
changes nothing else about a search (`search_recording`).

A frame of the stack is a call of the recursion that waits for the targets it has left. So what a
visit decides is handed back to the state that waited for it (`State.resume`), and the moves from
taking up a node until then are those of the visit (`simulates_visit`).
-/

namespace TableDiff.Search

variable {ν σ ε : Type}

/-! ## The recursive procedure -/

/-- What has been decided about nodes: those that were added to the result, in order, and those that
take no part. -/
structure Decisions (ν : Type) where
  result : List ν := []
  rejected : List ν := []

/-- How a part of a recursive search ends. -/
abbrev Ending (σ ε ν : Type) := Except (Failure ν ε) (Decisions ν) × σ

/-- Visits nodes one after another, up to the first failure. -/
def visitEach (visit : ν → Decisions ν → σ → Option (Ending σ ε ν)) :
    List ν → Decisions ν → σ → Option (Ending σ ε ν)
  | [], k, w => some (.ok k, w)
  | n :: ns, k, w =>
    match visit n k w with
    | some (.ok k, w) => visitEach visit ns k w
    | ended => ended

/-- Adds a node after its targets have been visited. -/
def addVisited (v : Visitor σ ε ν) (n : ν) : Ending σ ε ν → Ending σ ε ν
  | (.ok k, w) =>
    match v.nodeAdded n w with
    | (.error cause, w) => (.error ⟨.nodeAdded, n, cause⟩, w)
    | (.ok (), w) => (.ok { k with result := k.result ++ [n] }, w)
  | (.error failure, w) => (.error failure, w)

variable [DecidableEq ν] [Ord ν]

/-- Visits a node that is reached by a path, unless it is known already: asks whether it takes part
and which edges leave it, visits their targets and adds the node. None if the recursion becomes
deeper than `depth` nodes. -/
def visit (v : Visitor σ ε ν) (depth : Nat) (path : List ν) (n : ν) (k : Decisions ν) (w : σ) :
    Option (Ending σ ε ν) :=
  if n ∈ k.result ∨ n ∈ k.rejected ∨ n ∈ path then some (.ok k, w)
  else
    match v.shouldVisit n w with
    | (.error cause, w) => some (.error ⟨.shouldVisit, n, cause⟩, w)
    | (.ok false, w) => some (.ok { k with rejected := n :: k.rejected }, w)
    | (.ok true, w) =>
      match v.edgesFrom n w with
      | (.error cause, w) => some (.error ⟨.edgesFrom, n, cause⟩, w)
      | (.ok edges, w) =>
        match depth with
        | 0 => none
        | depth + 1 =>
          (visitEach (visit v depth (n :: path)) (targets edges) k w).map (addVisited v n)

/-- The recursive search from the given roots in their order, none if it becomes deeper than `depth`
nodes. -/
def recursiveSearch (v : Visitor σ ε ν) (depth : Nat) (roots : List ν) (w : σ) :
    Option (Outcome ν ε × σ) :=
  (visitEach (visit v depth []) roots {} w).map fun d => (d.1.map (·.result), d.2)

/-! ## Runs of the search -/

/-- What a move leads to when the search goes on. -/
def follow (v : Visitor σ ε ν) (limit : Nat) : Move ν ε × σ → Option (Outcome ν ε × σ)
  | (.finished result, w) => some (.ok result, w)
  | (.failed failure, w) => some (.error failure, w)
  | (.onward s, w) => run v limit s w
  | (.entered s, w) =>
    match limit with
    | 0 => none
    | limit + 1 => run v limit s w

theorem run_eq (v : Visitor σ ε ν) (limit : Nat) (s : State ν) (w : σ) :
    run v limit s w = follow v limit (step v s w) := by
  rw [run]
  split
  · simp only [follow, *]
  · simp only [follow, *]
  · simp only [follow, *]
  · rename_i hs
    rw [hs]
    cases limit <;> rfl

/-- A search that ends goes the same way under a larger limit. -/
theorem run_mono {v : Visitor σ ε ν} {limit : Nat} {s : State ν} {w : σ}
    {r : Outcome ν ε × σ} (h : run v limit s w = some r) (c : Nat) :
    run v (limit + c) s w = some r := by
  fun_induction run v limit s w with
  | case1 limit s w result w₁ hs =>
    rw [run_eq, hs]
    exact h
  | case2 limit s w failure w₁ hs =>
    rw [run_eq, hs]
    exact h
  | case3 limit s w s' w₁ hs _ ih =>
    rw [run_eq, hs]
    exact ih h
  | case4 => cases h
  | case5 s w s' w₁ hs limit ih =>
    rw [run_eq, hs, Nat.succ_add]
    exact ih h

/-- Searches that end do so in one way, whatever their limits. -/
theorem search_unique {v : Visitor σ ε ν} {limit limit' : Nat} {roots : List ν} {w : σ}
    {r r' : Outcome ν ε × σ} (h : search v limit roots w = some r)
    (h' : search v limit' roots w = some r') : r = r' := by
  have hleft := run_mono h limit'
  have hright := run_mono h' limit
  rw [Nat.add_comm, hleft] at hright
  exact Option.some.inj hright

theorem follow_mono {v : Visitor σ ε ν} {limit : Nat} {m : Move ν ε × σ}
    {r : Outcome ν ε × σ} (h : follow v limit m = some r) (c : Nat) :
    follow v (limit + c) m = some r := by
  obtain ⟨m, w⟩ := m
  cases m with
  | finished result => exact h
  | failed failure => exact h
  | onward s => exact run_mono h c
  | entered s =>
    cases limit with
    | zero => cases h
    | succ limit =>
      rw [Nat.succ_add]
      exact run_mono h c

/-! ## Frames and calls -/

/-- The state with other decisions. -/
def State.decided (s : State ν) (k : Decisions ν) : State ν :=
  { s with accepted := k.result.reverse, rejected := k.rejected, result := k.result }

/-- The state with one more node on the path, which has the given targets left. -/
def State.push (s : State ν) (n : ν) (targets : List ν) : State ν :=
  { s with onPath := n :: s.onPath, stack := ⟨n, targets⟩ :: s.stack }

/-- How the search goes on from a state that waited for a part of a recursion to end. -/
def State.resume (s : State ν) (v : Visitor σ ε ν) (limit : Nat) :
    Ending σ ε ν → Option (Outcome ν ε × σ)
  | (.ok k, w) => run v limit (s.decided k) w
  | (.error failure, w) => some (.error failure, w)

omit [Ord ν] in
theorem isKnown_decided (s : State ν) (k : Decisions ν) (n : ν) :
    (s.decided k).isKnown n = true ↔ n ∈ k.result ∨ n ∈ k.rejected ∨ n ∈ s.onPath := by
  show (decide (n ∈ k.result.reverse) || decide (n ∈ k.rejected) || decide (n ∈ s.onPath)) = true ↔
    _
  simp [or_assoc]

theorem step_push_cons (v : Visitor σ ε ν) (s : State ν) (n m : ν) (ms : List ν)
    (k : Decisions ν) (w : σ) :
    step v ((s.push n (m :: ms)).decided k) w = enter v m ((s.push n ms).decided k) w := rfl

/-- A node without targets left is added, and the state that waited for it goes on. -/
theorem resume_push_nil (v : Visitor σ ε ν) (s : State ν) (n : ν) (limit : Nat)
    (d : Ending σ ε ν) : (s.push n []).resume v limit d = s.resume v limit (addVisited v n d) := by
  obtain ⟨failure | k, w⟩ := d
  · rfl
  · show run v limit ((s.push n []).decided k) w = _
    rw [run_eq]
    show follow v limit (accept v n _ w) = _
    unfold accept addVisited
    rcases ha : v.nodeAdded n w with ⟨cause | u, w'⟩
    · simp only [ha]
      rfl
    · simp [ha, follow, State.resume, State.push, State.decided]

/-- A node that is taken up is either decided about at once, and so is its visit, or it is entered
with its targets left, and these are what its visit goes on with. -/
theorem visit_or_entered (v : Visitor σ ε ν) (s : State ν) (n : ν) (k : Decisions ν) (w : σ) :
    (∃ d, (∀ depth, visit v depth s.onPath n k w = some d) ∧
      ∀ limit, follow v limit (enter v n (s.decided k) w) = s.resume v limit d) ∨
    ∃ edges w₁, enter v n (s.decided k) w = (.entered ((s.push n (targets edges)).decided k), w₁) ∧
      visit v 0 s.onPath n k w = none ∧
      ∀ depth, visit v (depth + 1) s.onPath n k w =
        (visitEach (visit v depth (n :: s.onPath)) (targets edges) k w₁).map (addVisited v n) := by
  unfold enter visit
  by_cases hknown : n ∈ k.result ∨ n ∈ k.rejected ∨ n ∈ s.onPath
  · rw [if_pos ((isKnown_decided s k n).2 hknown)]
    simp only [if_pos hknown]
    exact .inl ⟨_, fun _ => rfl, fun _ => rfl⟩
  · rw [if_neg (mt (isKnown_decided s k n).1 hknown)]
    simp only [if_neg hknown]
    rcases v.shouldVisit n w with ⟨cause | takesPart, w₁⟩
    · exact .inl ⟨_, fun _ => rfl, fun _ => rfl⟩
    cases takesPart with
    | false => exact .inl ⟨_, fun _ => rfl, fun _ => rfl⟩
    | true =>
      dsimp only
      rcases v.edgesFrom n w₁ with ⟨cause | edges, w₂⟩
      · exact .inl ⟨_, fun _ => rfl, fun _ => rfl⟩
      · exact .inr ⟨edges, w₂, rfl, rfl, fun _ => rfl⟩

/-! ## Moves of the search and calls of the recursion -/

/-- A visit of a node does what the search does from taking up the node in a state that waits for
it, until it goes on from this state. -/
def Simulates (v : Visitor σ ε ν) (path : List ν)
    (visit : ν → Decisions ν → σ → Option (Ending σ ε ν)) : Prop :=
  ∀ (n : ν) (k : Decisions ν) (w : σ) (d : Ending σ ε ν) (s : State ν), s.onPath = path →
    visit n k w = some d →
    ∃ c, ∀ limit, follow v (limit + c) (enter v n (s.decided k) w) = s.resume v limit d

/-- States that differ in the nodes that are to be taken up next. -/
structure Waiting (v : Visitor σ ε ν) (path : List ν) (S : List ν → State ν) : Prop where
  onPath : ∀ ns, (S ns).onPath = path
  step : ∀ n ns k w, step v ((S (n :: ns)).decided k) w = enter v n ((S ns).decided k) w

variable {v : Visitor σ ε ν} {path : List ν}
  {visitOne : ν → Decisions ν → σ → Option (Ending σ ε ν)} {S : List ν → State ν}

theorem waiting_push (v : Visitor σ ε ν) (s : State ν) (n : ν) :
    Waiting v (n :: s.onPath) (s.push n) where
  onPath _ := rfl
  step m ms k w := step_push_cons v s n m ms k w

theorem waiting_roots (v : Visitor σ ε ν) : Waiting v [] fun roots => { roots } where
  onPath _ := rfl
  step _ _ _ _ := rfl

/-- Visits one after another do what the search does until no node is left to take up. -/
theorem run_eq_resume (hvisit : Simulates v path visitOne) (hS : Waiting v path S) {ns : List ν}
    {k : Decisions ν} {w : σ} {d : Ending σ ε ν} (h : visitEach visitOne ns k w = some d) :
    ∃ c, ∀ limit, run v (limit + c) ((S ns).decided k) w = (S []).resume v limit d := by
  induction ns generalizing k w with
  | nil =>
    cases h
    exact ⟨0, fun limit => rfl⟩
  | cons n ns ih =>
    rw [visitEach] at h
    cases hn : visitOne n k w with
    | none => rw [hn] at h; cases h
    | some d₁ =>
      rw [hn] at h
      obtain ⟨c₁, hc₁⟩ := hvisit n k w d₁ (S ns) (hS.onPath ns) hn
      obtain ⟨⟨failure⟩ | ⟨k₁⟩, w₁⟩ := d₁
      · cases h
        refine ⟨c₁, fun limit => ?_⟩
        rw [run_eq, hS.step, hc₁]
        rfl
      · obtain ⟨c₂, hc₂⟩ := ih h
        refine ⟨c₂ + c₁, fun limit => ?_⟩
        rw [run_eq, hS.step, ← Nat.add_assoc, hc₁]
        exact hc₂ limit

/-- A visit is what the search does between taking up a node and coming back. -/
theorem simulates_visit (v : Visitor σ ε ν) (depth : Nat) (path : List ν) :
    Simulates v path (visit v depth path) := by
  induction depth generalizing path with
  | zero =>
    rintro n k w d s rfl h
    obtain ⟨d', hvisit, hfollow⟩ | ⟨edges, w₁, -, hnone, -⟩ := visit_or_entered v s n k w
    · rw [hvisit] at h
      cases h
      exact ⟨0, hfollow⟩
    · rw [hnone] at h
      cases h
  | succ depth ih =>
    rintro n k w d s rfl h
    obtain ⟨d', hvisit, hfollow⟩ | ⟨edges, w₁, henter, -, hvisit⟩ := visit_or_entered v s n k w
    · rw [hvisit] at h
      cases h
      exact ⟨0, hfollow⟩
    · rw [hvisit] at h
      obtain ⟨d₁, hd₁, rfl⟩ := Option.map_eq_some_iff.1 h
      obtain ⟨c, hc⟩ := run_eq_resume (ih _) (waiting_push v s n) hd₁
      refine ⟨c + 1, fun limit => ?_⟩
      rw [henter]
      show run v (limit + c) _ _ = _
      rw [hc, resume_push_nil]

/-! ## Searches that do not end -/

/-- Where visits one after another become too deep, the search enters too many nodes. -/
theorem run_eq_none (hvisit : Simulates v path visitOne) (hS : Waiting v path S) {limit : Nat}
    (hnone : ∀ n k w (s : State ν), s.onPath = path → visitOne n k w = none →
      follow v limit (enter v n (s.decided k) w) = none)
    {ns : List ν} {k : Decisions ν} {w : σ} (h : visitEach visitOne ns k w = none) :
    run v limit ((S ns).decided k) w = none := by
  induction ns generalizing k w with
  | nil => cases h
  | cons n ns ih =>
    rw [run_eq, hS.step]
    rw [visitEach] at h
    cases hn : visitOne n k w with
    | none => exact hnone n k w (S ns) (hS.onPath ns) hn
    | some d₁ =>
      rw [hn] at h
      obtain ⟨failure | k₁, w₁⟩ := d₁
      · cases h
      · -- with a larger limit the search would come to the nodes that are left
        obtain ⟨c, hc⟩ := hvisit n k w _ (S ns) (hS.onPath ns) hn
        cases hr : follow v limit (enter v n ((S ns).decided k) w) with
        | none => rfl
        | some r =>
          have hrest : run v limit ((S ns).decided k₁) w₁ = some r := by
            rw [← follow_mono hr c, hc]
            rfl
          rw [ih h] at hrest
          cases hrest

theorem follow_enter_eq_none (v : Visitor σ ε ν) {depth limit : Nat} (hlimit : limit ≤ depth)
    (n : ν) (k : Decisions ν) (w : σ) (s : State ν) (h : visit v depth s.onPath n k w = none) :
    follow v limit (enter v n (s.decided k) w) = none := by
  induction depth generalizing limit n k w s with
  | zero =>
    obtain ⟨d, hvisit, -⟩ | ⟨edges, w₁, henter, -, -⟩ := visit_or_entered v s n k w
    · rw [hvisit] at h
      cases h
    · rw [henter, Nat.le_zero.1 hlimit]
      rfl
  | succ depth ih =>
    obtain ⟨d, hvisit, -⟩ | ⟨edges, w₁, henter, -, hvisit⟩ := visit_or_entered v s n k w
    · rw [hvisit] at h
      cases h
    · rw [henter]
      cases limit with
      | zero => rfl
      | succ limit =>
        rw [hvisit, Option.map_eq_none_iff] at h
        refine run_eq_none (simulates_visit v depth _) (waiting_push v s n) ?_ h
        rintro m k' w' s' hpath hm
        rw [← hpath] at hm
        exact ih (Nat.le_of_succ_le_succ hlimit) m k' w' s' hm

/-! ## Whole searches -/

theorem search_of_recursiveSearch {depth : Nat} {roots : List ν} {w w' : σ} {out : Outcome ν ε}
    (h : recursiveSearch v depth roots w = some (out, w')) :
    ∃ limit, search v limit roots w = some (out, w') := by
  obtain ⟨⟨d, w₁⟩, hd, h⟩ := Option.map_eq_some_iff.1 h
  cases h
  obtain ⟨c, hc⟩ := run_eq_resume (simulates_visit v depth []) (waiting_roots v) hd
  refine ⟨0 + c, ?_⟩
  show run v (0 + c) (State.decided { roots } {}) w = _
  rw [hc]
  cases d with
  | error failure => rfl
  | ok k =>
    show run v 0 _ w₁ = _
    rw [run_eq]
    rfl

theorem recursiveSearch_of_search {limit : Nat} {roots : List ν} {w : σ}
    {r : Outcome ν ε × σ} (h : search v limit roots w = some r) :
    ∃ depth, recursiveSearch v depth roots w = some r := by
  refine ⟨limit, ?_⟩
  cases hrec : recursiveSearch v limit roots w with
  | none =>
    have hnone : search v limit roots w = none := by
      refine run_eq_none (simulates_visit v limit []) (waiting_roots v) ?_
        (Option.map_eq_none_iff.1 hrec)
      rintro n k w' s hpath hn
      rw [← hpath] at hn
      exact follow_enter_eq_none v (Nat.le_refl limit) n k w' s hn
    rw [h] at hnone
    cases hnone
  | some r' =>
    obtain ⟨limit', hsearch⟩ := search_of_recursiveSearch hrec
    exact congrArg some (search_unique hsearch h)

/-! ## Visitors that watch -/

/-- The first visitor gives the answers of the second one, and keeps a state of its own beside that
of the second one. -/
structure Visitor.Watches {ω : Type} (u : Visitor (ω × σ) ε ν) (v : Visitor σ ε ν) : Prop where
  shouldVisit : ∀ n x w, ∃ y, u.shouldVisit n (x, w) =
    ((v.shouldVisit n w).1, y, (v.shouldVisit n w).2)
  edgesFrom : ∀ n x w, ∃ y, u.edgesFrom n (x, w) = ((v.edgesFrom n w).1, y, (v.edgesFrom n w).2)
  nodeAdded : ∀ n x w, ∃ y, u.nodeAdded n (x, w) = ((v.nodeAdded n w).1, y, (v.nodeAdded n w).2)

omit [DecidableEq ν] [Ord ν] in
theorem recording_watches (v : Visitor σ ε ν) : v.recording.Watches v :=
  ⟨fun _ _ _ => ⟨_, rfl⟩, fun _ _ _ => ⟨_, rfl⟩, fun _ _ _ => ⟨_, rfl⟩⟩

section Watches

variable {ω : Type} {u : Visitor (ω × σ) ε ν} {v : Visitor σ ε ν}

theorem enter_watches (h : u.Watches v) (n : ν) (s : State ν) (x : ω) (w : σ) :
    ∃ y, enter u n s (x, w) = ((enter v n s w).1, y, (enter v n s w).2) := by
  unfold enter
  cases s.isKnown n with
  | true => exact ⟨x, rfl⟩
  | false =>
    obtain ⟨y, hy⟩ := h.shouldVisit n x w
    simp only [Bool.false_eq_true, ↓reduceIte, hy]
    rcases v.shouldVisit n w with ⟨cause | takesPart, w₁⟩
    · exact ⟨y, rfl⟩
    cases takesPart with
    | false => exact ⟨y, rfl⟩
    | true =>
      obtain ⟨z, hz⟩ := h.edgesFrom n y w₁
      simp only [hz]
      rcases v.edgesFrom n w₁ with ⟨cause | edges, w₂⟩
      · exact ⟨z, rfl⟩
      · exact ⟨z, rfl⟩

theorem step_watches (h : u.Watches v) (s : State ν) (x : ω) (w : σ) :
    ∃ y, step u s (x, w) = ((step v s w).1, y, (step v s w).2) := by
  unfold step
  split
  · exact enter_watches h _ _ x w
  · rename_i n rest hs
    obtain ⟨y, hy⟩ := h.nodeAdded n x w
    unfold accept
    rw [hy]
    rcases v.nodeAdded n w with ⟨cause | _, w₁⟩
    · exact ⟨y, rfl⟩
    · exact ⟨y, rfl⟩
  · split
    · exact enter_watches h _ _ x w
    · exact ⟨x, rfl⟩

theorem run_watches (h : u.Watches v) (limit : Nat) (s : State ν) (x : ω) (w : σ) :
    (run u limit s (x, w)).map (fun r => (r.1, r.2.2)) = run v limit s w := by
  fun_induction run v limit s w generalizing x with
  | case1 limit s w result w₁ hs =>
    obtain ⟨y, hy⟩ := step_watches h s x w
    rw [run_eq, hy, hs]
    rfl
  | case2 limit s w failure w₁ hs =>
    obtain ⟨y, hy⟩ := step_watches h s x w
    rw [run_eq, hy, hs]
    rfl
  | case3 limit s w s' w₁ hs _ ih =>
    obtain ⟨y, hy⟩ := step_watches h s x w
    rw [run_eq, hy, hs]
    exact ih y
  | case4 s w s' w₁ hs =>
    obtain ⟨y, hy⟩ := step_watches h s x w
    rw [run_eq, hy, hs]
    rfl
  | case5 s w s' w₁ hs limit ih =>
    obtain ⟨y, hy⟩ := step_watches h s x w
    rw [run_eq, hy, hs]
    exact ih y

/-- Watching changes nothing about a search. -/
theorem search_watches (h : u.Watches v) (limit : Nat) (roots : List ν) (x : ω) (w : σ) :
    (search u limit roots (x, w)).map (fun r => (r.1, r.2.2)) = search v limit roots w :=
  run_watches h limit { roots } x w

end Watches

theorem search_recording (v : Visitor σ ε ν) (limit : Nat) (roots : List ν)
    (calls : List (Stage × ν)) (w : σ) :
    (search v.recording limit roots (calls, w)).map (fun r => (r.1, r.2.2)) =
      search v limit roots w :=
  search_watches (recording_watches v) limit roots calls w

/-! ## The refinement -/

/-- **The search with a stack refines the recursive one**: it ends with an outcome exactly where the
recursion does, and after the same calls. -/
theorem search_refines_recursion (v : Visitor σ ε ν) (roots : List ν) (w w' : σ)
    (out : Outcome ν ε) (calls : List (Stage × ν)) :
    ((∃ limit, search v limit roots w = some (out, w')) ↔
      ∃ depth, recursiveSearch v depth roots w = some (out, w')) ∧
    ((∃ limit, search v.recording limit roots ([], w) = some (out, calls, w')) ↔
      ∃ depth, recursiveSearch v.recording depth roots ([], w) = some (out, calls, w')) :=
  ⟨⟨fun ⟨_, h⟩ => recursiveSearch_of_search h, fun ⟨_, h⟩ => search_of_recursiveSearch h⟩,
    ⟨fun ⟨_, h⟩ => recursiveSearch_of_search h, fun ⟨_, h⟩ => search_of_recursiveSearch h⟩⟩

end TableDiff.Search
