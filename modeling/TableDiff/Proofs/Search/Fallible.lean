import TableDiff.Proofs.Search.Postorder

/-!
# Searches whose visitor may fail

A visitor that may fail, and that shows a graph wherever it answers (`Visitor.Answers`), is searched
within a limit on the nodes that can be reached (`search_ends`). If the search succeeds, its result
is that of a search of the graph (`search_ok`), since it has been told the edges of every node that
it lists (`edgesFrom_of_search_ok`). If it fails, one call to the visitor did (`search_failed`).
-/

namespace TableDiff.Search

variable {ν σ ε : Type} [DecidableEq ν] [Ord ν] {v : Visitor σ ε ν} {g : Graph ν}
  {roots order : List ν} {limit : Nat} {w w' : σ}

/-- A search ends, in success or failure, if the limit leaves room for all that can be reached. -/
theorem search_ends (hv : v.Answers g) (hfin : {n | g.ReachedFrom roots n}.Finite)
    (hl : {n | g.ReachedFrom roots n}.ncard ≤ limit) (w : σ) :
    ∃ out w', search v limit roots w = some (out, w') := by
  rw [Set.ncard_eq_toFinset_card _ hfin] at hl
  refine run_ends (P := fun s _ => Explores g roots s) (U := hfin.toFinset)
    (fun _ _ _ _ h ha => h.move hv ha) (fun _ _ h => ⟨h.consistent, fun n hn => ?_⟩)
    (.start g roots) (le_add_right hl)
  exact hfin.mem_toFinset.2 (h.sound.entered n hn)

/-- A search that succeeds has explored all that can be reached. -/
theorem search_ok (hv : v.Answers g) (h : search v limit roots w = some (.ok order, w')) :
    order.Nodup ∧ (∀ n, n ∈ order ↔ g.ReachedFrom roots n) ∧ Ordered g order := by
  obtain ⟨s, w₁, hs, ⟨result, hok, hstep⟩ | ⟨failure, herror, -⟩⟩ :=
    run_ended (P := fun s _ => Explores g roots s) (fun _ _ _ _ h ha => h.move hv ha)
      (.start g roots) h
  · cases hok
    obtain ⟨rfl, rfl, hstack, hroots⟩ := step_finished hstep
    have hresult : ∀ n, n ∈ s.entered → n ∈ s.result := by
      intro n hn
      rw [State.entered, hs.consistent.onPath_eq, hstack] at hn
      exact hs.consistent.mem_accepted.1 hn
    refine ⟨hs.consistent.result_nodup, fun n => ⟨fun hn => ?_, fun hn => ?_⟩, hs.ordered⟩
    · exact hs.sound.entered n (List.mem_append_right _ (hs.consistent.mem_accepted.2 hn))
    · exact hs.covers.mem_of_reachedFrom hroots hresult hn
  · cases herror

/-- A search that succeeds has got an answer about the edges of every node that it lists. -/
theorem edgesFrom_of_search_ok {Answered : ν → Prop}
    (hv : ∀ n w edges w', v.edgesFrom n w = (.ok edges, w') → Answered n)
    (h : search v limit roots w = some (.ok order, w')) : ∀ n ∈ order, Answered n := by
  have hmove : ∀ s w s' w', (s.Consistent ∧ ∀ n ∈ s.entered, Answered n) →
      Advances v s w s' w' → s'.Consistent ∧ ∀ n ∈ s'.entered, Answered n := by
    rintro s w s' w' ⟨hc, hs⟩ ha
    refine ⟨hc.advance ha, ?_⟩
    have hm := step_moves v s w
    rcases ha with ha | ha <;> rw [ha] at hm
    · cases hm with
      | known ho hk => cases ho <;> exact hs
      | refused ho hk hvisit => cases ho <;> exact hs
      | @added n rest _ hstack hadd =>
        intro m hm
        apply hs
        simp only [State.entered, hc.onPath_cons hstack, List.erase_cons_head, List.mem_append,
          List.mem_cons] at hm ⊢
        tauto
    · cases hm with
      | @entered n _ _ _ edges ho hk hvisit hedges =>
        intro m hm
        rcases List.mem_cons.1 hm with rfl | hm
        · exact hv m _ _ _ hedges
        · cases ho <;> exact hs m hm
  obtain ⟨s, w₁, ⟨hc, hs⟩, ⟨result, hok, hstep⟩ | ⟨failure, herror, -⟩⟩ :=
    run_ended (P := fun s _ => s.Consistent ∧ ∀ n ∈ s.entered, Answered n) hmove
      ⟨.start roots, by simp [State.entered]⟩ h
  · cases hok
    obtain ⟨rfl, rfl, -⟩ := step_finished hstep
    intro n hn
    exact hs n (List.mem_append_right _ (hc.mem_accepted.2 hn))
  · cases herror

/-- A search fails where a call to the visitor does, with the error of that call. -/
theorem search_failed {failure : Failure ν ε}
    (h : search v limit roots w = some (.error failure, w')) :
    ∃ w₁, match failure.stage with
      | .shouldVisit => v.shouldVisit failure.node w₁ = (.error failure.cause, w')
      | .edgesFrom => v.edgesFrom failure.node w₁ = (.error failure.cause, w')
      | .nodeAdded => v.nodeAdded failure.node w₁ = (.error failure.cause, w') := by
  obtain ⟨s, w₁, -, ⟨result, hok, -⟩ | ⟨f, herror, hstep⟩⟩ :=
    run_ended (P := fun _ _ => True) (fun _ _ _ _ _ _ => trivial) trivial h
  · cases hok
  · cases herror
    have hm := step_moves v s w₁
    rw [hstep] at hm
    cases hm with
    | visitFailed _ _ hf => exact ⟨w₁, hf⟩
    | @edgesFailed _ _ _ w₂ _ _ _ _ hf => exact ⟨w₂, hf⟩
    | addFailed _ hf => exact ⟨w₁, hf⟩

end TableDiff.Search
