import TableDiff.Proofs.Conversion.ExactComparison
import TableDiff.Proofs.Conversion.Key

/-!
# The order of a type

A type orders two values by keys that both of them must have (`DataType.OrderedBy`): the normalized
value, or under an exactly numeric type the number. So the order is a total preorder on the values
with a key, and outside the exactly numeric types these are the values that the type converts, null
before all others.

An exactly numeric type converts more values than it orders: null, and texts that only the limited
reader takes. Without these its order is as that of the other types, and with any one of them it is
not (`ordersConvertible_iff`).
-/

open Std

namespace TableDiff

open TableDiff.Numeric

theorem toOption_eq_some {α ε : Type} {r : Except ε α} {x : α} :
    r.toOption = some x ↔ r = .ok x := by
  cases r <;> simp [Except.toOption]

theorem toOption_eq_none {α ε : Type} {r : Except ε α} :
    r.toOption = none ↔ ∃ e, r = .error e := by
  cases r <;> simp [Except.toOption]

namespace DataType

variable {d : DataType} {l r : Value} {admits : Value → Prop}

/-! ## Orders by keys -/

/-- Two values are ordered exactly where both have a key, and as their keys are. -/
def OrderedBy {K : Type} (d : DataType) (key : Value → Option K) (cmp : K → K → Ordering) : Prop :=
  ∀ l r o, d.compare l r = .ok o ↔ ∃ x y, key l = some x ∧ key r = some y ∧ cmp x y = o

/-- Among the admitted values the type orders exactly those that it converts, by a total preorder
in which null comes first. -/
structure OrdersConvertible (d : DataType) (admits : Value → Prop) : Prop where
  defined : ∀ l r, admits l → admits r →
    ((∃ o, d.compare l r = .ok o) ↔ (∃ x, d.convert l = .ok x) ∧ ∃ y, d.convert r = .ok y)
  refl : ∀ v x, admits v → d.convert v = .ok x → d.compare v v = .ok .eq
  swap : ∀ l r o, admits l → admits r → d.compare l r = .ok o → d.compare r l = .ok o.swap
  trans : ∀ a b c o₁ o₂, admits a → admits b → admits c → d.compare a b = .ok o₁ →
    d.compare b c = .ok o₂ → o₁.isLE = true → o₂.isLE = true →
      ∃ o, d.compare a c = .ok o ∧ o.isLE = true
  null_null : admits .null → d.compare .null .null = .ok .eq
  null_lt : admits .null → ∀ v x, admits v → v.isNull = false → d.convert v = .ok x →
    d.compare .null v = .ok .lt

namespace OrderedBy

variable {K : Type} {key : Value → Option K} {cmp : K → K → Ordering}

theorem defined_iff (h : d.OrderedBy key cmp) :
    (∃ o, d.compare l r = .ok o) ↔ (∃ x, key l = some x) ∧ ∃ y, key r = some y := by
  constructor
  · rintro ⟨o, ho⟩
    obtain ⟨x, y, hx, hy, -⟩ := (h l r o).1 ho
    exact ⟨⟨x, hx⟩, y, hy⟩
  · rintro ⟨⟨x, hx⟩, y, hy⟩
    exact ⟨cmp x y, (h l r _).2 ⟨x, y, hx, hy, rfl⟩⟩

variable [TransCmp cmp]

theorem refl (h : d.OrderedBy key cmp) {v : Value} {x : K} (hx : key v = some x) :
    d.compare v v = .ok .eq :=
  (h v v .eq).2 ⟨x, x, hx, hx, ReflCmp.compare_self⟩

theorem swap (h : d.OrderedBy key cmp) {o : Ordering} (ho : d.compare l r = .ok o) :
    d.compare r l = .ok o.swap := by
  obtain ⟨x, y, hx, hy, rfl⟩ := (h l r o).1 ho
  exact (h r l _).2 ⟨y, x, hy, hx, OrientedCmp.eq_swap⟩

theorem trans (h : d.OrderedBy key cmp) {a b c : Value} {o₁ o₂ : Ordering}
    (h₁ : d.compare a b = .ok o₁) (h₂ : d.compare b c = .ok o₂) (hle₁ : o₁.isLE = true)
    (hle₂ : o₂.isLE = true) : ∃ o, d.compare a c = .ok o ∧ o.isLE = true := by
  obtain ⟨x, y, hx, hy, rfl⟩ := (h a b o₁).1 h₁
  obtain ⟨y', z, hy', hz, rfl⟩ := (h b c o₂).1 h₂
  rw [hy] at hy'
  cases hy'
  exact ⟨cmp x z, (h a c _).2 ⟨x, z, hx, hz, rfl⟩, TransCmp.isLE_trans hle₁ hle₂⟩

/-- An order by keys is as it should be if the admitted values that have a key are those that the
type converts. -/
theorem ordersConvertible (h : d.OrderedBy key cmp)
    (hkey : ∀ v, admits v → ((∃ x, key v = some x) ↔ ∃ x, d.convert v = .ok x))
    (hnull : admits .null → d.compare .null .null = .ok .eq ∧
      ∀ v x, v.isNull = false → d.convert v = .ok x → d.compare .null v = .ok .lt) :
    d.OrdersConvertible admits where
  defined l r hl hr := by rw [h.defined_iff, hkey l hl, hkey r hr]
  refl v x hv hx := by
    obtain ⟨k, hk⟩ := (hkey v hv).2 ⟨x, hx⟩
    exact h.refl hk
  swap _ _ _ _ _ ho := h.swap ho
  trans _ _ _ _ _ _ _ _ h₁ h₂ hle₁ hle₂ := h.trans h₁ h₂ hle₁ hle₂
  null_null hn := (hnull hn).1
  null_lt hn v x _ hv hx := (hnull hn).2 v x hv hx

end OrderedBy

/-! ## Normalized values as keys -/

theorem exists_normalize_iff {v : Value} :
    (∃ x, d.normalize v = .ok x) ↔ ∃ x, d.convert v = .ok x := by
  simp only [normalize_eq_ok]
  constructor
  · rintro ⟨-, w, hw, -⟩
    exact ⟨w, hw⟩
  · rintro ⟨w, hw⟩
    exact ⟨_, w, hw, rfl⟩

theorem compare_eq_ok (hd : d.family ≠ .exactNumeric) {o : Ordering} :
    d.compare l r = .ok o ↔
      ∃ x y, d.normalize l = .ok x ∧ d.normalize r = .ok y ∧ x.compare y = o := by
  by_cases hu : d = .unknown
  · subst hu
    simp only [normalize_unknown, Except.ok.injEq]
    show Except.ok (l.compare r) = Except.ok o ↔ _
    simp
  · rw [compare_of_not_exactNumeric hd hu]
    simp only [bind_eq_ok, pure_eq_ok]
    constructor
    · rintro ⟨x, hx, y, hy, ho⟩
      exact ⟨x, y, hx, hy, ho⟩
    · rintro ⟨x, y, hx, hy, ho⟩
      exact ⟨x, hx, y, hy, ho⟩

theorem orderedBy_normalize (hd : d.family ≠ .exactNumeric) :
    d.OrderedBy (fun v => (d.normalize v).toOption) Value.compare := by
  intro l r o
  simp only [toOption_eq_some]
  exact compare_eq_ok hd

theorem null_first (hd : d.family ≠ .exactNumeric) :
    d.compare .null .null = .ok .eq ∧
      ∀ v x, v.isNull = false → d.convert v = .ok x → d.compare .null v = .ok .lt := by
  have hnull : d.normalize .null = .ok .null := by
    refine normalize_eq_ok.2 ⟨.null, rfl, ?_⟩
    split <;> rfl
  refine ⟨(compare_eq_ok hd).2 ⟨_, _, hnull, hnull, rfl⟩, fun v x hv hx => ?_⟩
  obtain ⟨y, hy⟩ := exists_normalize_iff.2 ⟨x, hx⟩
  have hfirst := (Value.compare_null_of_nonNull ((isNull_normalize hy).trans hv)).1
  exact (compare_eq_ok hd).2 ⟨_, y, hnull, hy, hfirst⟩

end DataType

/-! ## Numbers as keys -/

namespace Value

variable {v : Value}

theorem exists_number_iff : (∃ q, v.number? = some q) ↔ ∃ n, v.toExact? = some n := by
  simp only [number?, ← Option.isSome_iff_exists, Option.isSome_map]

theorem exists_comparableNumber_iff : (∃ x, v.comparableNumber = .ok x) ↔
    (∃ a, v.toDecimal = .ok a) ∨ ∃ n, v.toExact? = some n := by
  unfold comparableNumber
  cases v.toDecimal with
  | ok a => simp
  | error fault => cases v.toExact? <;> simp

/-- Outside texts the exact reader takes what the limited one takes. -/
theorem exists_toExact?_of_toDecimal (hv : v.text? = none) {a : Decimal}
    (ha : v.toDecimal = .ok a) : ∃ n, v.toExact? = some n := by
  cases v with
  | int i => exact ⟨_, rfl⟩
  | bool b => exact ⟨_, rfl⟩
  | decimal d => exact ⟨_, rfl⟩
  | text s => cases hv
  | float x =>
    -- the limited reader refuses infinities and NaN, and the text of other numbers can be read back
    have hfinite : x.isFinite = true := by
      by_contra hx
      rw [toDecimal, Decimal.ofBinary64?, eq_false_of_ne_true hx] at ha
      cases ha
    exact exists_number_iff.1 ⟨_, (Denotes.float hfinite).number?_eq⟩
  | _ => cases ha

end Value

namespace DataType

variable {d : DataType} {v : Value}

theorem orderedBy_number (hd : d.family = .exactNumeric) :
    d.OrderedBy Value.number? Ord.compare := by
  intro l r o
  simp only [Value.number?, Option.map_eq_some_iff]
  constructor
  · intro h
    rw [compare, hd] at h
    simp only [bind_eq_ok, pure_eq_ok, Value.orError, mapError_eq_ok,
      LogicalType.toExact_eq_ok] at h
    obtain ⟨n, hn, m, hm, rfl⟩ := h
    rw [ExactDecimal.compare_eq_cmp, cmp_eq_compare]
    exact ⟨_, _, ⟨n, hn, rfl⟩, ⟨m, hm, rfl⟩, rfl⟩
  · rintro ⟨_, _, ⟨n, hn, rfl⟩, ⟨m, hm, rfl⟩, rfl⟩
    rw [← cmp_eq_compare]
    exact LogicalType.compare_plain_of_numbers hd hn hm

/-- Besides null an exactly numeric type converts what the limited or the exact reader takes. -/
theorem exists_convert_iff (hd : d.family = .exactNumeric) (hv : v.isNull = false) :
    (∃ x, d.convert v = .ok x) ↔ (∃ a, v.toDecimal = .ok a) ∨ ∃ n, v.toExact? = some n := by
  have hnumeric : (LogicalType.plain d).ComparesNumbers := hd
  have hconvert : ∀ x, d.convert v = .ok x ↔ v.comparableNumber = .ok x := fun x => by
    refine (LogicalType.convert_eq_ok hnumeric).trans ⟨?_, fun hx => .inr ⟨hv, hx⟩⟩
    rintro (⟨rfl, -⟩ | ⟨-, hx⟩)
    · cases hv
    · exact hx
  simp only [hconvert, Value.exists_comparableNumber_iff]

/-- Whatever an exactly numeric type orders has a number, so null and a text without one stand in
the way of the order if they are converted. -/
theorem OrdersConvertible.exists_toExact? {admits : Value → Prop} (h : d.OrdersConvertible admits)
    (hd : d.family = .exactNumeric) {x : Value} (hv : admits v) (hx : d.convert v = .ok x) :
    ∃ n, v.toExact? = some n :=
  Value.exists_number_iff.1 ((orderedBy_number hd).defined_iff.1 ⟨.eq, h.refl v x hv hx⟩).1

/-- **A type orders exactly the values that it converts, with null first, unless it is exactly
numeric and null is among them, or a text that the limited reader takes and the exact one does
not.** -/
theorem ordersConvertible_iff (d : DataType) (admits : Value → Prop) :
    d.OrdersConvertible admits ↔ (d.family = .exactNumeric → ¬ admits .null ∧
      ∀ s a, admits (.text s) → (Value.text s).toDecimal = .ok a →
        ∃ n, (Value.text s).toExact? = some n) := by
  by_cases hd : d.family = .exactNumeric
  · rw [iff_true_intro hd, true_imp_iff]
    constructor
    · intro h
      refine ⟨fun hnull => ?_, fun s a hs ha => ?_⟩
      · obtain ⟨n, hn⟩ := h.exists_toExact? hd hnull rfl
        cases hn
      · obtain ⟨x, hx⟩ := (exists_convert_iff hd rfl).2 (.inl ⟨a, ha⟩)
        exact h.exists_toExact? hd hs hx
    · rintro ⟨hnull, htext⟩
      refine (orderedBy_number hd).ordersConvertible (fun v hv => ?_) fun h => absurd h hnull
      have hne : v.isNull = false := by
        cases v <;> first | rfl | exact absurd hv hnull
      have hreads : ∀ a, v.toDecimal = .ok a → ∃ n, v.toExact? = some n := by
        intro a ha
        cases v with
        | text s => exact htext s a hv ha
        | _ => exact Value.exists_toExact?_of_toDecimal rfl ha
      rw [Value.exists_number_iff, exists_convert_iff hd hne]
      exact ⟨.inr, fun hx => hx.elim (fun ⟨a, ha⟩ => hreads a ha) id⟩
  · refine iff_of_true ?_ fun h => absurd h hd
    refine (orderedBy_normalize hd).ordersConvertible (fun v _ => ?_) fun _ => null_first hd
    simp only [toOption_eq_some]
    exact exists_normalize_iff

/-- An exactly numeric type converts null and a text with a doubled sign in its exponent, but it
orders neither of them with itself. -/
theorem null_not_ordered :
    numeric.convert .null = .ok .null ∧
      numeric.compare .null .null = .error ⟨.null, "NUMERIC", .notANumber⟩ ∧
      numeric.convert (.text "1e-+5") =
        .ok (.decimal { negative := false, mantissa := 1, scale := 5 }) ∧
      numeric.compare (.text "1e-+5") (.text "1e-+5") =
        .error ⟨.text "1e-+5", "NUMERIC", .notANumber⟩ ∧
      ¬ numeric.OrdersConvertible fun _ => True := by
  refine ⟨rfl, rfl, by decide +kernel, by decide +kernel, fun h => ?_⟩
  exact nomatch h.null_null trivial

end DataType

end TableDiff
