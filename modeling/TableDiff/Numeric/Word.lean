/-!
# Machine words

The ranges of the integers that fit words of fixed size.
-/

namespace TableDiff.Numeric

/-- Whether an integer fits a signed word of 32 bits. -/
def fitsInt32 (i : Int) : Bool := -2147483648 ≤ i && i < 2147483648

/-- Whether an integer fits a signed word of 64 bits. -/
def fitsInt64 (i : Int) : Bool := -9223372036854775808 ≤ i && i < 9223372036854775808

theorem fitsInt64_toInt (i : Int64) : fitsInt64 i.toInt = true := by
  have hlow := i.le_toInt
  have hhigh := i.toInt_lt
  simp only [fitsInt64, Bool.and_eq_true, decide_eq_true_eq]
  omega

/-- A natural number that fits an unsigned word of 64 bits. -/
def IsWord (n : Nat) : Prop := n < 18446744073709551616

instance (n : Nat) : Decidable (IsWord n) := inferInstanceAs (Decidable (_ < _))

/-- Whether a natural number fits an unsigned word of 64 bits. -/
def fitsNat64 (n : Nat) : Bool := decide (IsWord n)

/-- The word that is left of a natural number when it wraps around. -/
def wrapNat64 (n : Nat) : Nat := n % 18446744073709551616

theorem wrapNat64_of_isWord {n : Nat} (h : IsWord n) : wrapNat64 n = n := Nat.mod_eq_of_lt h

theorem wrapNat64_add_left (n k : Nat) : wrapNat64 (wrapNat64 n + k) = wrapNat64 (n + k) :=
  Nat.mod_add_mod n _ k

theorem wrapNat64_add_right (n k : Nat) : wrapNat64 (n + wrapNat64 k) = wrapNat64 (n + k) :=
  Nat.add_mod_mod n k _

end TableDiff.Numeric
