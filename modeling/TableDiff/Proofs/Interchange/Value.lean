import TableDiff.Interchange.Value
import TableDiff.Proofs.Conversion.WrittenValue
import TableDiff.Proofs.Json.Tokens

/-!
# Values are read back from JSON

A record of which every field is written once is found as it was written (`record?_object`). The
content of a value is read back for its kind (`ofContent?_content`), and so the value is read back
from its JSON form as its text shows it (`ofJson?_toJson`). A zoned timestamp is read only if its
clock shows a date. Floating point numbers are left out, and so are offsets with seconds.
-/

namespace TableDiff

open TableDiff.Calendar TableDiff.Numeric

/-! ## Records and lists -/

namespace Json

variable {α β : Type}

theorem record?_object {names : List String} {members : List (String × Json)}
    (hnames : ∀ m ∈ members, m.1 ∈ names) (hnodup : (members.map (·.1)).Nodup) :
    record? names (object members) = some ⟨members, false⟩ := by
  have hknown : members.filter (fun m => m.1 ∈ names) = members :=
    List.filter_eq_self.2 fun m hm => decide_eq_true (hnames m hm)
  simp only [record?, hknown, hnodup, if_true]

namespace Record

variable {name other : String} {j : Json} {fields : List (String × Json)} {positional : Bool}
  {read : Json → Option α}

theorem required_head : required ⟨(name, j) :: fields, positional⟩ name read = read j := by
  rw [required, get?, List.lookup_cons_self, Option.bind_some]

theorem required_tail (h : name ≠ other) :
    required ⟨(other, j) :: fields, positional⟩ name read =
      required ⟨fields, positional⟩ name read := by
  have hne : (name == other) = false := beq_eq_false_iff_ne.2 h
  simp only [required, get?, List.lookup_cons, hne]

end Record

/-- A list of which some elements cannot be read back is read if none of these is in it. -/
theorem list?_array_ite {read : Json → Option β} {write : α → Json} {back : α → β}
    {p : α → Prop} [DecidablePred p] {xs : List α}
    (h : ∀ x ∈ xs, read (write x) = if p x then some (back x) else none) :
    (array (xs.map write)).list? read = if ∀ x ∈ xs, p x then some (xs.map back) else none := by
  show (xs.map write).mapM read = _
  induction xs with
  | nil => rfl
  | cons x xs ih =>
    obtain ⟨hx, hxs⟩ := List.forall_mem_cons.1 h
    rw [List.map_cons, List.mapM_cons, hx, ih hxs]
    simp only [List.forall_mem_cons]
    by_cases hp : p x
    · by_cases hall : ∀ x ∈ xs, p x
      · rw [if_pos hp, if_pos hall, if_pos ⟨hp, hall⟩]
        rfl
      · have hnot : ¬ (p x ∧ ∀ x ∈ xs, p x) := fun hboth => hall hboth.2
        rw [if_pos hp, if_neg hall, if_neg hnot]
        rfl
    · have hnot : ¬ (p x ∧ ∀ x ∈ xs, p x) := fun hboth => hp hboth.1
      rw [if_neg hp, if_neg hnot]
      rfl

theorem list?_array {read : Json → Option β} {write : α → Json} {back : α → β} {xs : List α}
    (h : ∀ x ∈ xs, read (write x) = some (back x)) :
    (array (xs.map write)).list? read = some (xs.map back) := by
  have hall := list?_array_ite (p := fun _ => True) fun x hx => (h x hx).trans (if_pos trivial).symm
  exact hall.trans (if_pos fun _ _ => trivial)

theorem integersOnly_ofInt (i : Int) : (ofInt i).IntegersOnly := .number i

theorem integersOnly_ofNat (n : Nat) : (ofNat n).IntegersOnly := by
  rw [ofNat, ← intDigits_natCast]
  exact .number n

end Json

theorem Kind.ofTag?_tag (k : Kind) : Kind.ofTag? k.tag = some k := by
  cases k <;> decide

/-! ## Values -/

namespace Value

variable {form : FloatForm} {v : Value}

theorem ofJsonText?_string {α : Type} {read : List Char → Option α} {cs : List Char} {x : α}
    (h : read cs = some x) : ofJsonText? read (.string (String.ofList cs)) = some x := by
  rw [ofJsonText?, Json.string?, Option.bind_some, String.toList_ofList, h]

theorem decimal_ofJson?_toJson (d : Decimal) : Decimal.ofJson? d.toJson = some d.plainZero := by
  simp only [Decimal.ofJson?, Decimal.toJson, String.toList_ofList, Decimal.ofText?_text,
    Option.some_or]

theorem bytes_list?_content (bs : List UInt8) :
    (Json.array (bs.map fun b => .ofNat b.toNat)).list? Json.byte? = some bs := by
  have hback : (Json.array (bs.map fun b => .ofNat b.toNat)).list? Json.byte? =
      some (bs.map id) :=
    Json.list?_array fun b _ => Json.byte?_ofNat b
  rwa [List.map_id] at hback

theorem uuid_ofJsonText?_content (u : Uuid) :
    ofJsonText? (fun cs => (Uuid.ofText cs).toOption) (.string (String.ofList u.text)) =
      some u := by
  refine ofJsonText?_string ?_
  rw [Uuid.ofText_text]
  rfl

/-- The zoned timestamp in a value. -/
def zoned? : Value → Option ZonedTimestamp
  | zoned z => some z
  | _ => none

/-- An offset in the value is a whole number of minutes. -/
def HasWholeMinutes (v : Value) : Prop := ∀ z ∈ v.zoned?, z.HasWholeMinutes

instance (v : Value) : Decidable v.HasWholeMinutes :=
  inferInstanceAs (Decidable (∀ z ∈ v.zoned?, z.HasWholeMinutes))

/-- A clock in the value shows a date. -/
def ShowsDate (v : Value) : Prop := ∀ z ∈ v.zoned?, z.reading?.isSome

instance (v : Value) : Decidable v.ShowsDate :=
  inferInstanceAs (Decidable (∀ z ∈ v.zoned?, z.reading?.isSome))

theorem showsDate_of_kind (h : v.kind ≠ .zoned) : v.ShowsDate := by
  cases v with
  | zoned z => exact absurd rfl h
  | _ => simp [ShowsDate, zoned?]

theorem zoned_ofJsonText?_content {z : ZonedTimestamp} (hz : z.HasWholeMinutes) :
    ofJsonText? ZonedTimestamp.ofInterchange? (.string (String.ofList z.interchange)) =
      if z.reading?.isSome then some z.shown else none := by
  rw [ofJsonText?, Json.string?, Option.bind_some, String.toList_ofList,
    ZonedTimestamp.ofInterchange?_interchange hz]
  cases z.reading? <;> rfl

theorem ofContent?_content (hfloat : v.kind ≠ .float) (hminutes : v.HasWholeMinutes) :
    ofContent? form (v.content form) v.kind = if v.ShowsDate then some v.plain else none := by
  by_cases hzoned : v.kind = .zoned
  · cases v <;> cases hzoned
    rename_i z
    have hdate : (zoned z).ShowsDate ↔ z.reading?.isSome := by simp [ShowsDate, zoned?]
    simp only [kind, content, ofContent?, hdate,
      zoned_ofJsonText?_content (hminutes z rfl), apply_ite (Option.map zoned)]
    rfl
  rw [if_pos (showsDate_of_kind hzoned)]
  cases v with
  | float x => exact absurd rfl hfloat
  | zoned z => exact absurd rfl hzoned
  | null => rfl
  | bool b => rfl
  | text s => rfl
  | int i =>
    rw [kind, content, ofContent?, Json.int64?_ofInt]
    rfl
  | decimal d =>
    rw [kind, content, ofContent?, decimal_ofJson?_toJson]
    rfl
  | bytes bs =>
    rw [kind, content, ofContent?, bytes_list?_content]
    rfl
  | date d =>
    rw [kind, content, ofContent?, ofJsonText?_string d.ofInterchange?_text]
    rfl
  | time t =>
    rw [kind, content, ofContent?, ofJsonText?_string t.ofInterchange?_text]
    rfl
  | timestamp t =>
    rw [kind, content, ofContent?, ofJsonText?_string t.ofInterchange?_interchange]
    rfl
  | uuid u =>
    rw [kind, content, ofContent?, uuid_ofJsonText?_content]
    rfl

/-- **A value other than a floating point number is read back from its JSON form as its text shows
it**, unless its clock shows no date. -/
theorem ofJson?_toJson (hfloat : v.kind ≠ .float) (hminutes : v.HasWholeMinutes) :
    ofJson? form (v.toJson form) = if v.ShowsDate then some v.plain else none := by
  have hkind : (Json.string v.kind.tag).string?.bind Kind.ofTag? = some v.kind :=
    Kind.ofTag?_tag v.kind
  by_cases hnull : v.isNull = true
  · obtain rfl := LogicalType.isNull_eq_true hnull
    rfl
  · rw [Bool.not_eq_true] at hnull
    have hrecord : (v.toJson form).record? ["type", "value"] =
        some ⟨[("type", .string v.kind.tag), ("value", v.content form)], false⟩ := by
      rw [toJson, hnull]
      exact Json.record?_object (by simp) (by simp)
    rw [ofJson?, hrecord]
    exact (congrArg (Option.bind · _) hkind).trans (ofContent?_content hfloat hminutes)

theorem integersOnly_content (h : v.kind ≠ .float) : (v.content form).IntegersOnly := by
  cases v with
  | float x => exact absurd rfl h
  | null => exact .null
  | bool b => exact .bool b
  | int i => exact Json.integersOnly_ofInt i.toInt
  | bytes bs =>
    refine .array fun j hj => ?_
    obtain ⟨b, -, rfl⟩ := List.mem_map.1 hj
    exact Json.integersOnly_ofNat b.toNat
  | _ => exact .string _

theorem integersOnly_toJson (h : v.kind ≠ .float) : (v.toJson form).IntegersOnly := by
  refine .object fun m hm => ?_
  rcases List.mem_cons.1 hm with rfl | hm
  · exact .string _
  · split at hm
    · cases hm
    · rw [List.mem_singleton.1 hm]
      exact integersOnly_content h

end Value

end TableDiff
