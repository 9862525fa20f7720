import TableDiff.Proofs.Text.Blank
import TableDiff.Proofs.Text.Case
import TableDiff.Registry

/-!
# The spelling of reported type names

A driver may report a type name with blanks around it and with ASCII letters of either case
(`Respells`). Each vendor reads names in its own way, but all of them cut off blanks, one also what
follows a parenthesis, and then map the name to one case, which makes the same of ASCII letters of
either case. So no mapping sees the spelling (`Respells.lookup?_eq`), nor does a registry that passes
a name on from one mapping to the next (`resolve_of_respells`).
-/

namespace TableDiff

open TableDiff.Text

/-! ## Small letters, blanks and parentheses -/

namespace Text

theorem isBlank_toLower (c : Char) : isBlank c.toLower = isBlank c := by
  cases hc : isAscii c with
  | false => rw [toLower_eq_self hc]
  | true => exact forall_ascii (p := fun c => isBlank c.toLower = isBlank c) (by decide) hc

theorem toLower_eq_parenthesis {c : Char} : c.toLower = '(' ↔ c = '(' := by
  cases hc : isAscii c with
  | false => rw [toLower_eq_self hc]
  | true => exact forall_ascii (p := fun c => c.toLower = '(' ↔ c = '(') (by decide) hc

theorem trim_map_toLower (cs : List Char) :
    trim (cs.map Char.toLower) = (trim cs).map Char.toLower := by
  have hp : isBlank ∘ Char.toLower = isBlank := funext isBlank_toLower
  simp only [trim, trimStart, dropTailWhile, List.dropWhile_map, ← List.map_reverse, hp]

/-- The text before the first parenthesis. -/
def beforeParenthesis (cs : List Char) : List Char := cs.takeWhile (· ≠ '(')

theorem beforeParenthesis_map_toLower (cs : List Char) :
    beforeParenthesis (cs.map Char.toLower) = (beforeParenthesis cs).map Char.toLower := by
  unfold beforeParenthesis
  rw [List.takeWhile_map]
  congr 2
  funext c
  simp [toLower_eq_parenthesis]

theorem ne_parenthesis_of_isBlank {c : Char} (h : isBlank c = true) : c ≠ '(' := by
  rintro rfl
  cases h

/-- Blanks around a text stay around what stands before its parenthesis, those at its end if it has
none. -/
theorem exists_beforeParenthesis {as bs : List Char} (has : ∀ c ∈ as, isBlank c = true)
    (hbs : ∀ c ∈ bs, isBlank c = true) (cs : List Char) :
    ∃ ds, (∀ c ∈ ds, isBlank c = true) ∧
      beforeParenthesis (as ++ cs ++ bs) = as ++ beforeParenthesis cs ++ ds := by
  have hkept : ∀ {es : List Char}, (∀ c ∈ es, isBlank c = true) →
      ∀ c ∈ es, decide (c ≠ '(') = true :=
    fun hes c hc => decide_eq_true (ne_parenthesis_of_isBlank (hes c hc))
  unfold beforeParenthesis
  rw [List.append_assoc, List.takeWhile_append_of_pos (hkept has), List.takeWhile_append]
  split
  next hall =>
    have hcs := (List.takeWhile_prefix _).eq_of_length hall
    refine ⟨bs, hbs, ?_⟩
    rw [List.takeWhile_eq_self_iff.2 (hkept hbs), hcs, List.append_assoc]
  next => exact ⟨[], List.forall_mem_nil _, by rw [List.append_nil]⟩

end Text

/-! ## Spellings -/

/-- The second name spells the first one: with letters of either case, as far as they are ASCII, and
with blanks around it. -/
def Respells (a b : String) : Prop :=
  ∃ before cs after, b.toList = before ++ cs ++ after ∧ (∀ c ∈ before, isBlank c = true) ∧
    (∀ c ∈ after, isBlank c = true) ∧ cs.map Char.toLower = a.toList.map Char.toLower

namespace Respells

variable {a b : String}

theorem trim_eq (h : Respells a b) :
    (trim b.toList).map Char.toLower = (trim a.toList).map Char.toLower := by
  obtain ⟨before, cs, after, hb, hbefore, hafter, hcs⟩ := h
  rw [hb, trim_blanks_around hbefore hafter, ← trim_map_toLower, hcs, trim_map_toLower]

theorem trim_beforeParenthesis_eq (h : Respells a b) :
    (trim (beforeParenthesis b.toList)).map Char.toLower =
      (trim (beforeParenthesis a.toList)).map Char.toLower := by
  obtain ⟨before, cs, after, hb, hbefore, hafter, hcs⟩ := h
  obtain ⟨blanks, hblanks, hbase⟩ := exists_beforeParenthesis hbefore hafter cs
  rw [hb, hbase, trim_blanks_around hbefore hblanks, ← trim_map_toLower,
    ← beforeParenthesis_map_toLower, hcs, beforeParenthesis_map_toLower, trim_map_toLower]

theorem upperTrimmed_eq (h : Respells a b) : Vendor.upperTrimmed b = Vendor.upperTrimmed a := by
  rw [Vendor.upperTrimmed, Vendor.upperTrimmed, ← toUpper_map_toLower, h.trim_eq,
    toUpper_map_toLower]

theorem postgresNamedType?_eq (h : Respells a b) :
    Vendor.postgresNamedType? b = Vendor.postgresNamedType? a := by
  have hbase : toLower (trim (b.toList.takeWhile (· ≠ '('))) =
      toLower (trim (a.toList.takeWhile (· ≠ '('))) :=
    toLower_eq_of_map_toLower h.trim_beforeParenthesis_eq
  unfold Vendor.postgresNamedType?
  rw [hbase]

theorem mssqlType?_eq (h : Respells a b) (code : Int) :
    Vendor.mssqlType? code b = Vendor.mssqlType? code a := by
  have hname : sameName (String.ofList (trim b.toList)) "uniqueidentifier" =
      sameName (String.ofList (trim a.toList)) "uniqueidentifier" := by
    simp only [sameName, foldAscii, String.toList_ofList, h.trim_eq]
  unfold Vendor.mssqlType?
  rw [hname]

/-- No vendor's mapping sees the spelling of a name. -/
theorem lookup?_eq (h : Respells a b) (vendor : Vendor) (code : Int) :
    vendor.lookup? code b = vendor.lookup? code a := by
  cases vendor with
  | default => simp only [Vendor.lookup?, Vendor.defaultType?, h.upperTrimmed_eq]
  | mssql => exact h.mssqlType?_eq code
  | h2 => simp only [Vendor.lookup?, Vendor.h2Type?, h.upperTrimmed_eq]
  | postgres => simp only [Vendor.lookup?, Vendor.postgresType?, h.postgresNamedType?_eq]

end Respells

/-- **The type of a column does not depend on how its type name is spelled**, whatever the vendor and
the code that are reported, and with tolerances as without. -/
theorem resolve_of_respells (r : Registry) {a b : String} (h : Respells a b) (code : Int) :
    r.resolve code b = r.resolve code a ∧
      ∀ table column, r.resolveForColumn code b table column =
        r.resolveForColumn code a table column := by
  have hresolve : r.resolve code b = r.resolve code a := by
    have hvendor : r.vendor?.bind (·.lookup? code b) = r.vendor?.bind (·.lookup? code a) :=
      congrArg _ (funext fun vendor => h.lookup?_eq vendor code)
    unfold Registry.resolve
    rw [hvendor, h.lookup?_eq .default code]
  refine ⟨hresolve, fun table column => ?_⟩
  unfold Registry.resolveForColumn
  rw [hresolve]

theorem citext_resolved_respelled :
    Respells "citext(40)" "\t CiText(40)\u00a0" ∧
      (let r : Registry := { vendor? := some .postgres }
       r.resolve TypeCode.other "\t CiText(40)\u00a0" = r.resolve TypeCode.other "citext(40)" ∧
        ∀ table column, r.resolveForColumn TypeCode.other "\t CiText(40)\u00a0" table column =
          r.resolveForColumn TypeCode.other "citext(40)" table column) := by
  have h : Respells "citext(40)" "\t CiText(40)\u00a0" :=
    ⟨['\t', ' '], "CiText(40)".toList, ['\u00a0'], by decide, List.all_eq_true.1 (by decide),
      List.all_eq_true.1 (by decide), by decide⟩
  exact ⟨h, resolve_of_respells _ h TypeCode.other⟩

end TableDiff
