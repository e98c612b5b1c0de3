import Affordance.Text.Basic

/-!
# Whole numbers in texts

  * A whole number in decimal digits may have `mostDigits` of them, leading zeros counted.
  * `LongNumber`: a number with more.  It stops whatever is being read.
-/

namespace Affordance.Number

/-- The most decimal digits that a whole number may have. -/
def mostDigits : Nat := 4300

/-- A whole number with too many decimal digits. -/
structure LongNumber where
  digits : Nat
  deriving Repr, DecidableEq

/-- What is wrong with a number of so many decimal digits. -/
def longNumber? (digits : Nat) : Option LongNumber :=
  if mostDigits < digits then some ⟨digits⟩ else none

theorem longNumber?_eq_none {n : Nat} : longNumber? n = none ↔ n ≤ mostDigits := by
  unfold longNumber?
  split <;> simp <;> omega

/-- The wording of the fault. -/
def LongNumber.message (n : LongNumber) : String :=
  "Exceeds the limit (" ++ toString mostDigits ++ " digits) for integer string conversion: " ++
    "value has " ++ toString n.digits ++
    " digits; use sys.set_int_max_str_digits() to increase the limit"

end Affordance.Number
