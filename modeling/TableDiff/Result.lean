/-!
# Results of steps that may fail

What the result of several steps says about the single steps: all of them succeeded (`bind_eq_ok`)
or one of them failed (`bind_eq_error`), a changed result or error does not change this
(`map_eq_ok`, `map_eq_error`, `mapError_eq_ok`, `mapError_eq_error`), and a list of steps has a
result for each step (`mapM_length`, `mapM_map_eq`, `mapM_eq_ok`, `mapM_ok_results`) or the error of
the first of them that fails (`mapM_eq_error_iff`).
-/

namespace TableDiff

variable {α β ε ε' : Type}

theorem bind_eq_ok {x : Except ε α} {f : α → Except ε β} {b : β} :
    x >>= f = .ok b ↔ ∃ a, x = .ok a ∧ f a = .ok b := by
  cases x with
  | error e => simp [bind, Except.bind]
  | ok a => simp [bind, Except.bind]

theorem bind_eq_error {x : Except ε α} {f : α → Except ε β} {e : ε} :
    x >>= f = .error e ↔ x = .error e ∨ ∃ a, x = .ok a ∧ f a = .error e := by
  cases x with
  | error e => simp [bind, Except.bind]
  | ok a => simp [bind, Except.bind]

theorem pure_eq_ok {a b : α} : (pure a : Except ε α) = .ok b ↔ a = b := by
  simp [pure, Except.pure]

theorem map_eq_ok {f : α → β} {x : Except ε α} {b : β} :
    x.map f = .ok b ↔ ∃ a, x = .ok a ∧ f a = b := by
  cases x <;> simp [Except.map]

theorem map_eq_error {f : α → β} {x : Except ε α} {e : ε} : x.map f = .error e ↔ x = .error e := by
  cases x <;> simp [Except.map]

theorem mapError_eq_error {f : ε → ε'} {x : Except ε α} {e' : ε'} :
    x.mapError f = .error e' ↔ ∃ e, x = .error e ∧ e' = f e := by
  cases x with
  | error e =>
    show Except.error (f e) = Except.error e' ↔ _
    simp [eq_comm]
  | ok a =>
    show Except.ok a = Except.error e' ↔ _
    simp

theorem mapError_eq_ok {f : ε → ε'} {x : Except ε α} {a : α} :
    x.mapError f = .ok a ↔ x = .ok a := by
  cases x with
  | error e => exact iff_of_false (fun h => (nomatch h)) fun h => (nomatch h)
  | ok b =>
    show Except.ok b = Except.ok a ↔ _
    rw [Except.ok.injEq, Except.ok.injEq]

theorem mapM_length {f : α → Except ε β} {xs : List α} {ys : List β} (h : xs.mapM f = .ok ys) :
    ys.length = xs.length := by
  induction xs generalizing ys with
  | nil =>
    rw [← pure_eq_ok.1 h]
    rfl
  | cons x xs ih =>
    rw [List.mapM_cons] at h
    obtain ⟨y, -, h⟩ := bind_eq_ok.1 h
    obtain ⟨zs, hzs, h⟩ := bind_eq_ok.1 h
    rw [← pure_eq_ok.1 h, List.length_cons, List.length_cons, ih hzs]

theorem mapM_eq_ok {f : α → Except ε β} {p : α → Prop} {g : α → β}
    (hf : ∀ x y, f x = .ok y ↔ p x ∧ y = g x) {xs : List α} {ys : List β} :
    xs.mapM f = .ok ys ↔ (∀ x ∈ xs, p x) ∧ ys = xs.map g := by
  induction xs generalizing ys with
  | nil =>
    rw [List.mapM_nil, pure_eq_ok, eq_comm]
    simp
  | cons x xs ih =>
    simp only [List.mapM_cons, bind_eq_ok, pure_eq_ok, hf, ih, List.forall_mem_cons, List.map_cons]
    constructor
    · rintro ⟨-, ⟨hx, rfl⟩, -, ⟨hxs, rfl⟩, rfl⟩
      exact ⟨⟨hx, hxs⟩, rfl⟩
    · rintro ⟨⟨hx, hxs⟩, rfl⟩
      exact ⟨_, ⟨hx, rfl⟩, _, ⟨hxs, rfl⟩, rfl⟩

theorem mapM_congr {f g : α → Except ε β} {xs : List α} (h : ∀ x ∈ xs, f x = g x) :
    xs.mapM f = xs.mapM g := by
  induction xs with
  | nil => rfl
  | cons x xs ih =>
    obtain ⟨hx, hxs⟩ := List.forall_mem_cons.1 h
    rw [List.mapM_cons, List.mapM_cons, hx, ih hxs]

/-- Each step of a successful list of steps has its result, and there are no other results. -/
theorem mapM_ok_results {f : α → Except ε β} {xs : List α} {ys : List β}
    (h : xs.mapM f = .ok ys) :
    (∀ x ∈ xs, ∃ y ∈ ys, f x = .ok y) ∧ ∀ y ∈ ys, ∃ x ∈ xs, f x = .ok y := by
  induction xs generalizing ys with
  | nil =>
    rw [← pure_eq_ok.1 h]
    simp
  | cons x xs ih =>
    rw [List.mapM_cons] at h
    obtain ⟨y, hy, h⟩ := bind_eq_ok.1 h
    obtain ⟨zs, hzs, h⟩ := bind_eq_ok.1 h
    obtain ⟨hsteps, hresults⟩ := ih hzs
    rw [← pure_eq_ok.1 h]
    refine ⟨List.forall_mem_cons.2 ⟨⟨y, List.mem_cons_self, hy⟩, fun x hx => ?_⟩,
      List.forall_mem_cons.2 ⟨⟨x, List.mem_cons_self, hy⟩, fun z hz => ?_⟩⟩
    · obtain ⟨z, hz, hxz⟩ := hsteps x hx
      exact ⟨z, List.mem_cons_of_mem y hz, hxz⟩
    · obtain ⟨x', hx', hxz⟩ := hresults z hz
      exact ⟨x', List.mem_cons_of_mem x hx', hxz⟩

/-- What each step keeps is kept by a list of steps. -/
theorem mapM_map_eq {γ : Type} {f : α → Except ε β} {g : α → γ} {h : β → γ}
    (hf : ∀ x y, f x = .ok y → h y = g x) {xs : List α} {ys : List β} (hys : xs.mapM f = .ok ys) :
    ys.map h = xs.map g := by
  induction xs generalizing ys with
  | nil =>
    rw [← pure_eq_ok.1 hys]
    rfl
  | cons x xs ih =>
    rw [List.mapM_cons] at hys
    obtain ⟨y, hy, hys⟩ := bind_eq_ok.1 hys
    obtain ⟨zs, hzs, hys⟩ := bind_eq_ok.1 hys
    rw [← pure_eq_ok.1 hys, List.map_cons, List.map_cons, hf x y hy, ih hzs]

/-- A list of steps fails with the error of the first of them that does. -/
theorem mapM_eq_error_iff {f : α → Except ε β} {xs : List α} {e : ε} :
    xs.mapM f = .error e ↔ ∃ before x after, xs = before ++ x :: after ∧ f x = .error e ∧
      ∀ y ∈ before, ∃ z, f y = .ok z := by
  induction xs with
  | nil =>
    refine iff_of_false (fun h => nomatch h) ?_
    rintro ⟨before, x, after, h, -⟩
    cases before <;> cases h
  | cons a xs ih =>
    rw [List.mapM_cons, bind_eq_error]
    constructor
    · rintro (ha | ⟨b, hb, h⟩)
      · exact ⟨[], a, xs, rfl, ha, by simp⟩
      · rcases bind_eq_error.1 h with hxs | ⟨ys, -, h⟩
        · obtain ⟨before, x, after, rfl, hx, hbefore⟩ := ih.1 hxs
          exact ⟨a :: before, x, after, rfl, hx, List.forall_mem_cons.2 ⟨⟨b, hb⟩, hbefore⟩⟩
        · cases h
    · rintro ⟨before, x, after, h, hx, hbefore⟩
      cases before with
      | nil =>
        cases h
        exact .inl hx
      | cons a' before =>
        cases h
        obtain ⟨⟨b, hb⟩, hbefore⟩ := List.forall_mem_cons.1 hbefore
        exact .inr ⟨b, hb, bind_eq_error.2 (.inl (ih.2 ⟨before, x, after, rfl, hx, hbefore⟩))⟩

/-- A list of steps fails with the error of one of them. -/
theorem mapM_eq_error {f : α → Except ε β} {xs : List α} {e : ε} (h : xs.mapM f = .error e) :
    ∃ x ∈ xs, f x = .error e := by
  obtain ⟨before, x, after, rfl, hx, -⟩ := mapM_eq_error_iff.1 h
  exact ⟨x, List.mem_append_right _ List.mem_cons_self, hx⟩

end TableDiff
