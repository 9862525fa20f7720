import TableDiff.Proofs.Comparison.CanonicalKeys
import TableDiff.Proofs.Conversion.TypeOrder
import TableDiff.Proofs.Table.StableSort

/-!
# Sorted tables in the order of types

The rows of a sorted table are in the order that the types of the key columns give to the cells
(`Table.InTypeOrder`), if the cells of exactly numeric key columns have keys that stand where their
numbers do (`Value.RanksByNumber`). This is the exact condition, as decimals may stand beside any
such cell (`sortsByTypes_iff`): a number that is kept as text comes after all decimals, whatever
its sign and size, and among its like in the order of characters.
-/

namespace TableDiff

open TableDiff.Numeric TableDiff.Table

/-! ## The order of cells -/

namespace DataType

variable {d : DataType} {l r x y : Value}

/-- The order of two values as the type sees it, null before all others. -/
def compareNullFirst (d : DataType) (l r : Value) : Except ConversionError Ordering :=
  match l.isNull, r.isNull with
  | true, true => .ok .eq
  | true, false => .ok .lt
  | false, true => .ok .gt
  | false, false => d.compare l r

theorem compareNullFirst_of_nonNull (hl : l.isNull = false) (hr : r.isNull = false) :
    d.compareNullFirst l r = d.compare l r := by
  rw [compareNullFirst, hl, hr]

/-- The key of a value under an exactly numeric type is its comparable form. -/
theorem comparableNumber_of_normalize (hd : d.family = .exactNumeric) (hl : l.isNull = false)
    (h : d.normalize l = .ok x) : l.comparableNumber = .ok x := by
  have hnumeric : (LogicalType.plain d).ComparesNumbers := hd
  rw [normalize_of_exactNumeric hd] at h
  have hnull : ¬ (l = .null ∧ x = .null) := fun hnull => by simp [hnull.1, Value.isNull] at hl
  exact (((LogicalType.convert_eq_ok hnumeric).1 h).resolve_left hnull).2

/-- Keys are ordered as the cells if this is so for the cells of exactly numeric columns that are
not null. -/
theorem compareNullFirst_of_normalize (hx : d.normalize l = .ok x) (hy : d.normalize r = .ok y)
    (hnumeric : d.family = .exactNumeric → l.isNull = false → r.isNull = false →
      d.compare l r = .ok (x.compare y)) : d.compareNullFirst l r = .ok (x.compare y) := by
  have hxl := isNull_normalize hx
  have hyr := isNull_normalize hy
  unfold compareNullFirst
  cases hl : l.isNull with
  | true =>
    rw [LogicalType.isNull_eq_true (hxl.trans hl)]
    cases hr : r.isNull with
    | true => rw [LogicalType.isNull_eq_true (hyr.trans hr)]; rfl
    | false => rw [(Value.compare_null_of_nonNull (hyr.trans hr)).1]
  | false =>
    cases hr : r.isNull with
    | true =>
      rw [LogicalType.isNull_eq_true (hyr.trans hr),
        (Value.compare_null_of_nonNull (hxl.trans hl)).2]
    | false =>
      by_cases hd : d.family = .exactNumeric
      · exact hnumeric hd hl hr
      · exact (compare_eq_ok hd).2 ⟨x, y, hx, hy, rfl⟩

end DataType

/-! ## The order of rows -/

namespace Table

variable {t s : Table} {columns : List Column} {i j : Nat}

/-- In the first column in which the type does not find the cells of two rows equal, the first row
has the smaller one. -/
inductive InTypeOrder (t : Table) (i j : Nat) : List Column → Prop
  | nil : InTypeOrder t i j []
  | lt {k ks l r} (hl : t.valueByName i k.name = .ok l) (hr : t.valueByName j k.name = .ok r)
    (h : k.type.dataType.compareNullFirst l r = .ok .lt) : InTypeOrder t i j (k :: ks)
  | eq {k ks l r} (hl : t.valueByName i k.name = .ok l) (hr : t.valueByName j k.name = .ok r)
    (h : k.type.dataType.compareNullFirst l r = .ok .eq) (hrest : InTypeOrder t i j ks) :
    InTypeOrder t i j (k :: ks)

theorem inTypeOrder_cons_iff {k : Column} {ks : List Column} {l r : Value}
    (hl : t.valueByName i k.name = .ok l) (hr : t.valueByName j k.name = .ok r) :
    t.InTypeOrder i j (k :: ks) ↔ k.type.dataType.compareNullFirst l r = .ok .lt ∨
      k.type.dataType.compareNullFirst l r = .ok .eq ∧ t.InTypeOrder i j ks := by
  constructor
  · rintro (_ | ⟨hl', hr', h⟩ | ⟨hl', hr', h, hrest⟩) <;> rw [hl] at hl' <;> rw [hr] at hr' <;>
      cases hl' <;> cases hr'
    · exact .inl h
    · exact .inr ⟨h, hrest⟩
  · rintro (h | ⟨h, hrest⟩)
    · exact .lt hl hr h
    · exact .eq hl hr h hrest

theorem InTypeOrder.of_keys {m : Metadata} {a b : List Value}
    (hcells : ∀ k ∈ columns, ∃ l r, t.valueByName i k.name = .ok l ∧
      t.valueByName j k.name = .ok r ∧
      k.type.dataType.compareNullFirst l r = .ok ((keyValue m k a).compare (keyValue m k b)))
    (hle : (compareKeys (rowKey m columns a) (rowKey m columns b)).isLE = true) :
    t.InTypeOrder i j columns := by
  induction columns with
  | nil => exact .nil
  | cons k ks ih =>
    obtain ⟨⟨l, r, hl, hr, ho⟩, hrest⟩ := List.forall_mem_cons.1 hcells
    have hle' : (((keyValue m k a).compare (keyValue m k b)).then
        (compareKeys (rowKey m ks a) (rowKey m ks b))).isLE = true := hle
    cases hk : (keyValue m k a).compare (keyValue m k b) with
    | lt => exact .lt hl hr (hk ▸ ho)
    | eq =>
      rw [hk] at hle'
      exact .eq hl hr (hk ▸ ho) (ih hrest hle')
    | gt =>
      rw [hk] at hle'
      cases hle'

/-- Two rows of a sorted table are in the order of types if their cells and keys are ordered
alike. -/
theorem inTypeOrder_of_sorted (hs : t.sortedByColumns columns = .ok s)
    (hnumeric : ∀ k ∈ columns, k.type.dataType.family = .exactNumeric → ∀ a ∈ t.rows, ∀ b ∈ t.rows,
      (keyCell t.metadata k a).isNull = false → (keyCell t.metadata k b).isNull = false →
      k.type.dataType.compare (keyCell t.metadata k a) (keyCell t.metadata k b) =
        .ok ((keyValue t.metadata k a).compare (keyValue t.metadata k b)))
    (hij : i < j) (hj : j < s.rowCount) : s.InTypeOrder i j columns := by
  obtain ⟨hfound, hkeys, hmeta, hrows⟩ := sortedByColumns_eq_ok.1 hs
  have hi : i < s.rows.length := Nat.lt_trans hij hj
  have hmem : ∀ row ∈ s.rows, row ∈ t.rows := by
    intro row hrow
    rwa [hrows, List.mem_mergeSort] at hrow
  have hri := hmem _ (List.getElem_mem hi)
  have hrj := hmem _ (List.getElem_mem hj)
  have hsorted : s.rows.Pairwise fun a b => byKey t.metadata columns a b = true := by
    rw [hrows]
    exact List.pairwise_mergeSort byKey_trans byKey_total t.rows
  refine .of_keys (fun k hk => ?_) (List.pairwise_iff_getElem.1 hsorted i j hi hj hij)
  have hcell : ∀ {n} (hn : n < s.rows.length),
      s.valueByName n k.name = .ok (keyCell t.metadata k s.rows[n]) := by
    intro n hn
    rw [← hmeta]
    exact valueByName_keyCell (hmeta ▸ hfound k hk) (List.getElem?_eq_getElem hn)
  exact ⟨_, _, hcell hi, hcell hj, DataType.compareNullFirst_of_normalize
    (normalize_keyCell (hkeys _ hri) hk) (normalize_keyCell (hkeys _ hrj) hk)
    fun hd => hnumeric k hk hd _ hri _ hrj⟩

end Table

/-- The rows of sorted tables are in the order of the types of the key columns, if the values in
exactly numeric key columns are null or of some sort. -/
def SortsByTypes (admits : Value → Prop) : Prop :=
  ∀ (t s : Table) (columns : List Column),
    KeyCells (fun v => v.isNull = false → admits v) columns t → t.sortedByColumns columns = .ok s →
    ∀ i j, i < j → j < s.rowCount → s.InTypeOrder i j columns

/-! ## The order of numbers and of their keys -/

namespace Value

variable {u v x y : Value} {n m : ExactDecimal}

/-- The value has this number and is kept as its text, since no decimal is read from it. -/
def WrittenAs (v : Value) (n : ExactDecimal) : Prop :=
  (∃ fault, v.toDecimal = .error fault) ∧ v.toExact? = some n

/-- The key of the value stands among the decimals where the number of the value does: it is the
decimal of the number, or the number is larger than all decimals. -/
def RanksByNumber (v : Value) : Prop :=
  v.ReadsFaithfully ∧ ∀ n, v.WrittenAs n → Decimal.largest.toRat < n.toRat

theorem isNull_of_comparableNumber (h : v.comparableNumber = .ok x) : v.isNull = false := by
  cases v <;> first | rfl | cases h

theorem WrittenAs.comparableNumber (h : v.WrittenAs n) : v.comparableNumber = .ok (written n) := by
  obtain ⟨⟨fault, hf⟩, hn⟩ := h
  exact comparableNumber_eq_ok.2 (.inr ⟨fault, n, hf, hn, rfl⟩)

theorem WrittenAs.number?_eq (h : v.WrittenAs n) : v.number? = some n.toRat := by
  rw [number?, h.2, Option.map_some]

theorem not_writtenAs_decimal (d : Decimal) : ¬ (decimal d).WrittenAs n :=
  fun ⟨⟨_, hf⟩, _⟩ => nomatch hf

theorem ranksByNumber_decimal (d : Decimal) : (decimal d).RanksByNumber :=
  ⟨readsFaithfully_decimal d, fun _ h => absurd h (not_writtenAs_decimal d)⟩

/-- The key of a value that ranks by its number is the decimal of the number, or it is written and
the number is larger than all decimals. -/
theorem RanksByNumber.form (hv : v.RanksByNumber) (hx : v.comparableNumber = .ok x) :
    (∃ d, x = decimal d ∧ v.number? = some d.toRat) ∨
      ∃ n, x = written n ∧ v.WrittenAs n ∧ Decimal.largest.toRat < n.toRat := by
  rcases comparableNumber_eq_ok.1 hx with ⟨d, hd, rfl⟩ | ⟨fault, n, hf, hn, rfl⟩
  · exact .inl ⟨d, rfl, hv.1 d hd⟩
  · exact .inr ⟨n, rfl, ⟨⟨fault, hf⟩, hn⟩, hv.2 n ⟨⟨fault, hf⟩, hn⟩⟩

/-- The keys of values that rank by their numbers are ordered as the numbers, if this is so for
those that are written. -/
theorem RanksByNumber.compare_eq (hu : u.RanksByNumber) (hv : v.RanksByNumber)
    (hwritten : ∀ n m, u.WrittenAs n → v.WrittenAs m →
      (written n).compare (written m) = cmp n.toRat m.toRat)
    (hx : u.comparableNumber = .ok x) (hy : v.comparableNumber = .ok y) :
    ∃ p q, u.number? = some p ∧ v.number? = some q ∧ cmp p q = x.compare y := by
  rcases hu.form hx with ⟨a, rfl, ha⟩ | ⟨n, rfl, hn, hlarge⟩ <;>
    rcases hv.form hy with ⟨b, rfl, hb⟩ | ⟨m, rfl, hm, hlarge'⟩
  · exact ⟨_, _, ha, hb, (Decimal.compare_eq_cmp a b).symm⟩
  · exact ⟨_, _, ha, hm.number?_eq, (cmp_eq_lt_iff _ _).2 (a.toRat_le_largest.trans_lt hlarge')⟩
  · exact ⟨_, _, hn.number?_eq, hb, (cmp_eq_gt_iff _ _).2 (b.toRat_le_largest.trans_lt hlarge)⟩
  · exact ⟨_, _, hn.number?_eq, hm.number?_eq, (hwritten n m hn hm).symm⟩

end Value

/-! ## Tables of two rows and two key columns -/

/-- A second numeric key column. -/
def secondColumn : Column := { name := "l", type := .plain .numeric }

/-- A table of two rows with keys in both of its columns, decimals in the second one. -/
def pairTable (u v : Value) (a b : Decimal) : Table where
  metadata := { name := "t", columns := [keyColumn, secondColumn] }
  rows := [[u, .decimal a], [v, .decimal b]]
  width_eq := by simp

section Pairs

variable {admits : Value → Prop} {u v x y : Value} {a b : Decimal}

theorem sortedByColumns_pairTable (hx : DataType.numeric.normalize u = .ok x)
    (hy : DataType.numeric.normalize v = .ok y)
    (hle : ((x.compare y).then (a.compare b)).isLE = true) :
    (pairTable u v a b).sortedByColumns [keyColumn, secondColumn] = .ok (pairTable u v a b) := by
  have hrow : ∀ {w z d}, DataType.numeric.normalize w = .ok z →
      HasKey (pairTable u v a b).metadata [keyColumn, secondColumn] [w, .decimal d] ∧
        rowKey (pairTable u v a b).metadata [keyColumn, secondColumn] [w, .decimal d] =
          [z, .decimal d] := by
    intro w z d hw
    refine ⟨List.forall_mem_cons.2 ⟨⟨z, hw⟩, List.forall_mem_singleton.2 ⟨.decimal d, rfl⟩⟩, ?_⟩
    show [(DataType.numeric.normalize w).toOption.getD .null, .decimal d] = [z, .decimal d]
    rw [hw]
    rfl
  have horder : byKey (pairTable u v a b).metadata [keyColumn, secondColumn]
      [u, .decimal a] [v, .decimal b] = true := by
    rw [byKey, (hrow hx).2, (hrow hy).2]
    show ((x.compare y).then ((a.compare b).then .eq)).isLE = true
    rw [Ordering.then_eq]
    exact hle
  refine sortedByColumns_of_pairwise ?_ ?_ (List.pairwise_pair.2 horder)
  · rw [List.forall_mem_cons, List.forall_mem_singleton]
    exact ⟨rfl, rfl⟩
  · intro row hrows
    rcases List.mem_pair.1 hrows with rfl | rfl
    · exact (hrow hx).1
    · exact (hrow hy).1

theorem keyCells_pairTable (hu : admits u) (hv : admits v) (hd : ∀ d, admits (.decimal d)) :
    KeyCells (fun v => v.isNull = false → admits v) [keyColumn, secondColumn]
      (pairTable u v a b) := by
  unfold KeyCells
  rw [List.forall_mem_cons, List.forall_mem_singleton]
  constructor
  · intro _ row hrow
    rcases List.mem_pair.1 hrow with rfl | rfl
    · exact fun _ => hu
    · exact fun _ => hv
  · intro _ row hrow
    rcases List.mem_pair.1 hrow with rfl | rfl
    · exact fun _ => hd a
    · exact fun _ => hd b

theorem inTypeOrder_pairTable_iff :
    (pairTable u v a b).InTypeOrder 0 1 [keyColumn, secondColumn] ↔
      DataType.numeric.compareNullFirst u v = .ok .lt ∨
        DataType.numeric.compareNullFirst u v = .ok .eq ∧ (a.compare b).isLE = true := by
  have hsecond : DataType.numeric.compareNullFirst (.decimal a) (.decimal b) =
      .ok (a.compare b) := by
    rw [Decimal.compare_eq_cmp]
    exact LogicalType.compare_plain_of_numbers (d := .numeric) (l := .decimal a) (r := .decimal b)
      rfl rfl rfl
  rw [inTypeOrder_cons_iff (l := u) (r := v) rfl rfl,
    inTypeOrder_cons_iff (l := .decimal a) (r := .decimal b) rfl rfl]
  refine or_congr Iff.rfl (and_congr_right fun _ => ?_)
  show DataType.numeric.compareNullFirst _ _ = _ ∨ DataType.numeric.compareNullFirst _ _ = _ ∧ _ ↔ _
  rw [hsecond]
  cases a.compare b with
  | lt => exact iff_of_true (.inl rfl) rfl
  | eq => exact iff_of_true (.inr ⟨rfl, .nil⟩) rfl
  | gt => exact iff_of_false nofun nofun

namespace SortsByTypes

variable (h : SortsByTypes admits) (hdecimal : ∀ d, admits (.decimal d)) (hu : admits u)
  (hv : admits v) (hx : u.comparableNumber = .ok x) (hy : v.comparableNumber = .ok y)

include h hdecimal hu hv hx hy

/-- The order of two values with the given keys, before decimals in a second column. -/
theorem compare_pair (hle : ((x.compare y).then (a.compare b)).isLE = true) :
    DataType.numeric.compare u v = .ok .lt ∨
      DataType.numeric.compare u v = .ok .eq ∧ (a.compare b).isLE = true := by
  have hun := Value.isNull_of_comparableNumber hx
  have hvn := Value.isNull_of_comparableNumber hy
  have hsorted := sortedByColumns_pairTable (a := a) (b := b)
    (DataType.normalize_of_comparable rfl hun hx) (DataType.normalize_of_comparable rfl hvn hy) hle
  have horder := h _ _ _ (keyCells_pairTable hu hv hdecimal) hsorted 0 1 Nat.zero_lt_one
    Nat.one_lt_two
  rwa [inTypeOrder_pairTable_iff, DataType.compareNullFirst_of_nonNull hun hvn] at horder

theorem compare_of_lt (hlt : x.compare y = .lt) : DataType.numeric.compare u v = .ok .lt := by
  have hpair := h.compare_pair hdecimal hu hv hx hy (a := .one) (b := .zero) (by rw [hlt]; rfl)
  exact hpair.resolve_right fun ⟨_, hle⟩ => absurd hle (by decide)

/-- The type orders two values as their keys are ordered. -/
theorem compare_eq : DataType.numeric.compare u v = .ok (x.compare y) := by
  have horder := DataType.orderedBy_number (d := .numeric) rfl
  have hswap : y.compare x = (x.compare y).swap := Std.OrientedCmp.eq_swap
  cases ho : x.compare y with
  | lt => exact h.compare_of_lt hdecimal hu hv hx hy ho
  | gt =>
    rw [ho] at hswap
    exact horder.swap (h.compare_of_lt hdecimal hv hu hy hx hswap)
  | eq =>
    rw [ho] at hswap
    have hleft := h.compare_pair hdecimal hu hv hx hy (a := .one) (b := .one)
      (by rw [ho]; decide)
    have hright := h.compare_pair hdecimal hv hu hy hx (a := .one) (b := .one)
      (by rw [hswap]; decide)
    rcases hleft with hlt | ⟨heq, -⟩
    · have hgt := horder.swap hlt
      rcases hright with hr | ⟨hr, -⟩ <;> rw [hr] at hgt <;> cases hgt
    · exact heq

end SortsByTypes

end Pairs

/-! ## Which cells can be sorted by -/

/-- If the order of types is kept, a value ranks by its number. -/
theorem SortsByTypes.ranksByNumber {admits : Value → Prop} {v : Value} (h : SortsByTypes admits)
    (hdecimal : ∀ d, admits (.decimal d)) (hv : admits v) : v.RanksByNumber := by
  have horder := DataType.orderedBy_number (d := .numeric) rfl
  constructor
  · intro d hd
    have hform : v.comparableNumber = .ok (.decimal d) :=
      Value.comparableNumber_eq_ok.2 (.inl ⟨d, hd, rfl⟩)
    have heq := h.compare_eq hdecimal hv (hdecimal d) hform rfl
    rw [(Value.compare_decimal d d).2 rfl] at heq
    obtain ⟨p, q, hp, hq, hpq⟩ := (horder _ _ _).1 heq
    cases hq
    rw [hp, compare_eq_iff_eq.1 hpq]
    rfl
  · intro n hn
    have hlt := h.compare_eq hdecimal (hdecimal .largest) hv rfl hn.comparableNumber
    obtain ⟨p, q, hp, hq, hpq⟩ := (horder _ _ _).1 hlt
    rw [hn.number?_eq] at hq
    cases hp
    cases hq
    exact compare_lt_iff_lt.1 hpq

/-- **Sorted tables are in the order of types exactly where keys stand as numbers do**: the values
in exactly numeric key columns rank by their numbers, and the texts of those that are written are
ordered as their numbers. -/
theorem sortsByTypes_iff (admits : Value → Prop) :
    SortsByTypes (fun v => (∃ d, v = .decimal d) ∨ admits v) ↔
      (∀ v, admits v → v.RanksByNumber) ∧
        ∀ u v n m, admits u → admits v → u.WrittenAs n → v.WrittenAs m →
          (Value.written n).compare (.written m) = cmp n.toRat m.toRat := by
  constructor
  · intro h
    have hdecimal : ∀ d, (∃ a, Value.decimal d = .decimal a) ∨ admits (.decimal d) := fun d =>
      .inl ⟨d, rfl⟩
    refine ⟨fun v hv => h.ranksByNumber hdecimal (.inr hv), fun u v n m hu hv hn hm => ?_⟩
    have hkeys := h.compare_eq hdecimal (.inr hu) (.inr hv) hn.comparableNumber hm.comparableNumber
    rw [LogicalType.compare_plain_of_numbers rfl hn.2 hm.2] at hkeys
    exact (Except.ok.inj hkeys).symm
  · rintro ⟨hranks, hwritten⟩ t s columns hcells hs i j hij hj
    obtain ⟨-, hkeys, -⟩ := sortedByColumns_eq_ok.1 hs
    have hranks' : ∀ v, (∃ d, v = .decimal d) ∨ admits v → v.RanksByNumber := by
      rintro v (⟨d, rfl⟩ | hv)
      · exact Value.ranksByNumber_decimal d
      · exact hranks v hv
    have hadmits : ∀ v n, v.WrittenAs n → (∃ d, v = .decimal d) ∨ admits v → admits v := by
      rintro v n hn (⟨d, rfl⟩ | hv)
      · exact absurd hn (Value.not_writtenAs_decimal d)
      · exact hv
    refine inTypeOrder_of_sorted hs (fun k hk hd a ha b hb hna hnb => ?_) hij hj
    have hu := hcells k hk hd a ha hna
    have hv := hcells k hk hd b hb hnb
    obtain ⟨p, q, hp, hq, hpq⟩ := (hranks' _ hu).compare_eq (hranks' _ hv)
      (fun n m hn hm => hwritten _ _ n m (hadmits _ n hn hu) (hadmits _ m hm hv) hn hm)
      (DataType.comparableNumber_of_normalize hd hna (normalize_keyCell (hkeys a ha) hk))
      (DataType.comparableNumber_of_normalize hd hnb (normalize_keyCell (hkeys b hb) hk))
    refine (DataType.orderedBy_number hd _ _ _).2 ⟨p, q, hp, hq, ?_⟩
    rw [← cmp_eq_compare, hpq]

/-- Integers are among the values by which tables can be sorted in the order of their numbers. -/
theorem integers_sort_by_types :
    SortsByTypes fun v => (∃ d, v = .decimal d) ∨ ∃ i, v = .int i := by
  refine (sortsByTypes_iff _).2 ⟨?_, ?_⟩
  · rintro _ ⟨i, rfl⟩
    exact ⟨(Value.keepsNumber_iff.1 (Value.keepsNumber_int i)).1, fun n ⟨⟨_, hf⟩, _⟩ => nomatch hf⟩
  · rintro _ v n m ⟨i, rfl⟩ - ⟨⟨fault, hf⟩, -⟩
    cases hf

/-- A number that is too small for a decimal is sorted after the number one. -/
theorem large_negative_sorted_last :
    (keyTable (.int 1) (.text "-1e30")).sortedByColumns [keyColumn] =
        .ok (keyTable (.int 1) (.text "-1e30")) ∧
      DataType.numeric.compare (.int 1) (.text "-1e30") = .ok .gt ∧
      ¬ (keyTable (.int 1) (.text "-1e30")).InTypeOrder 0 1 [keyColumn] := by
  have hkey : DataType.numeric.normalize (.text "-1e30") = .ok (.text "-1e+30") := by decide +kernel
  have horder : DataType.numeric.compare (.int 1) (.text "-1e30") = .ok .gt := by decide +kernel
  have hcells : keyColumn.type.dataType.compareNullFirst (.int 1) (.text "-1e30") = .ok .gt :=
    horder
  refine ⟨sortedByColumns_keyTable (v := .decimal (.ofInt64 1)) rfl hkey rfl, horder, ?_⟩
  rw [inTypeOrder_cons_iff (l := .int 1) (r := .text "-1e30") rfl rfl, hcells]
  exact nofun

end TableDiff
