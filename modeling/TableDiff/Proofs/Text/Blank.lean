import Mathlib.Data.List.Basic
import Mathlib.Data.List.TakeWhile
import TableDiff.Proofs.Text.Digits
import TableDiff.Text.Blank

/-!
# Where runs of characters stop

A reader that takes off a run of characters leaves a text as it is that does not go on with such a
character (`Stops`). So cutting the blanks off a text leaves it as it is where no blank stands at
its ends (`trim_of_stops`, `trim_append`), in particular where it has none at all (`trim_eq_self`).
Nothing is left of a text exactly where it has blanks only (`trim_eq_nil_iff`), and blanks around a
text make no difference (`trim_blanks_around`).
-/

namespace TableDiff.Text

variable {p q : Char → Bool} {c : Char} {cs : List Char}

/-- The text does not go on with a character that satisfies `p`. -/
def Stops (p : Char → Bool) (cs : List Char) : Prop := ∀ c ∈ cs.head?, p c = false

theorem stops_nil : Stops p [] := by
  intro c hc
  cases hc

theorem stops_cons (h : p c = false) : Stops p (c :: cs) := by
  intro d hd
  cases hd
  exact h

theorem Stops.head (h : Stops p (c :: cs)) : p c = false := h c rfl

theorem Stops.mono (h : Stops p cs) (hq : ∀ c, q c = true → p c = true) : Stops q cs := by
  intro c hc
  by_contra hqc
  have hpc := hq c (Bool.not_eq_false _ ▸ hqc)
  rw [h c hc] at hpc
  cases hpc

theorem Stops.dropWhile_eq (h : Stops p cs) : cs.dropWhile p = cs := by
  cases cs with
  | nil => rfl
  | cons c cs => simp [h.head]

theorem Stops.takeWhile_eq (h : Stops p cs) : cs.takeWhile p = [] := by
  cases cs with
  | nil => rfl
  | cons c cs => simp [h.head]

/-! ## Blanks -/

theorem not_isBlank_of_isDigit (h : isDigit c = true) : isBlank c = false := by
  simp only [isDigit, Bool.and_eq_true, decide_eq_true_eq, Char.le_def, UInt32.le_iff_toNat_le] at h
  have hlow : 48 ≤ c.toNat := h.1
  have hhigh : c.toNat ≤ 57 := h.2
  simp only [isBlank, Bool.or_eq_false_iff, Bool.and_eq_false_iff, beq_eq_false_iff_ne,
    decide_eq_false_iff_not]
  omega

theorem trimStart_of_stops (h : Stops isBlank cs) : trimStart cs = cs := h.dropWhile_eq

theorem trim_of_stops (hfirst : Stops isBlank cs) (hlast : Stops isBlank cs.reverse) :
    trim cs = cs := by
  rw [trim, trimStart_of_stops hfirst, dropTailWhile, hlast.dropWhile_eq, List.reverse_reverse]

theorem trim_append {as bs : List Char} (ha : as ≠ []) (hb : bs ≠ [])
    (has : ∀ c ∈ as, isBlank c = false) (hbs : ∀ c ∈ bs, isBlank c = false) (cs : List Char) :
    trim (as ++ cs ++ bs) = as ++ cs ++ bs := by
  refine trim_of_stops (fun c hc => has c ?_) fun c hc => hbs c ?_
  · rw [List.append_assoc, List.head?_append_of_ne_nil _ ha] at hc
    exact List.mem_of_mem_head? hc
  · rw [List.head?_reverse, List.getLast?_append_of_ne_nil _ hb] at hc
    exact List.mem_of_mem_getLast? hc

theorem trim_eq_self (h : ∀ c ∈ cs, isBlank c = false) : trim cs = cs :=
  trim_of_stops (fun c hc => h c (List.mem_of_mem_head? hc))
    fun c hc => h c (List.mem_reverse.1 (List.mem_of_mem_head? hc))

theorem trim_eq_nil_iff : trim cs = [] ↔ ∀ c ∈ cs, isBlank c = true := by
  have hstart : trimStart cs = [] ↔ ∀ c ∈ cs, isBlank c = true := List.dropWhile_eq_nil_iff
  rw [trim, dropTailWhile, List.reverse_eq_nil_iff, List.dropWhile_eq_nil_iff, ← hstart]
  constructor
  · intro h
    by_contra hne
    have hfirst := List.head_dropWhile_not isBlank hne
    have hblank := h ((trimStart cs).head hne) (List.mem_reverse.2 (List.head_mem hne))
    exact Bool.false_ne_true (hfirst.symm.trans hblank)
  · intro h
    rw [h]
    exact List.forall_mem_nil _

theorem dropTailWhile_append_of_pos {bs : List Char} (h : ∀ c ∈ bs, p c = true) :
    dropTailWhile p (cs ++ bs) = dropTailWhile p cs := by
  rw [dropTailWhile, List.reverse_append,
    List.dropWhile_append_of_pos fun c hc => h c (List.mem_reverse.1 hc)]
  rfl

theorem trim_blanks_around {as bs : List Char} (has : ∀ c ∈ as, isBlank c = true)
    (hbs : ∀ c ∈ bs, isBlank c = true) : trim (as ++ cs ++ bs) = trim cs := by
  rw [trim, trimStart, List.append_assoc, List.dropWhile_append_of_pos has, List.dropWhile_append]
  split
  next hempty =>
    rw [List.dropWhile_eq_nil_iff.2 hbs, trim, trimStart, List.isEmpty_iff.1 hempty]
  next => exact dropTailWhile_append_of_pos hbs

end TableDiff.Text
