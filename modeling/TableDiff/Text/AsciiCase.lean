/-!
# Names that differ only in the case of ASCII letters

Tables and columns are looked up by names that ignore the case of the letters `a` to `z` and of
no other letter.
-/

namespace TableDiff.Text

/-- The characters of a name with `A` to `Z` made small. -/
def foldAscii (s : String) : List Char := s.toList.map Char.toLower

/-- Whether two names are equal up to the case of ASCII letters. -/
def sameName (a b : String) : Bool := foldAscii a == foldAscii b

theorem sameName_iff {a b : String} : sameName a b = true ↔ foldAscii a = foldAscii b := by
  simp [sameName]

theorem sameName_refl (a : String) : sameName a a = true := by simp [sameName]

theorem sameName_symm (a b : String) : sameName a b = sameName b a := by
  rw [Bool.eq_iff_iff, sameName_iff, sameName_iff, eq_comm]

theorem sameName_congr {a b : String} (h : sameName a b = true) (c : String) :
    sameName c a = sameName c b := by
  rw [Bool.eq_iff_iff, sameName_iff, sameName_iff, sameName_iff.1 h]

end TableDiff.Text
