import Affordance.Text.Basic

/-!
# Fresh names

  * `fresh`: a name that is not taken, made from a wanted name by a number at its end
    where the name itself is taken.  Numbers are tried from two on.
  * `freshFrom`: the search through names that a number makes.
-/

namespace Affordance.Text

/-- A name with a number at its end. -/
def numbered (name : String) (n : Nat) : String := name ++ "_" ++ toString n

/-- The first name that is not taken, of the names that the numbers from one on make; at most
    `k` numbers are passed over. -/
def freshFrom (nameOf : Nat → String) (taken : List String) : Nat → Nat → String
  | 0, n => nameOf n
  | k + 1, n =>
    if taken.contains (nameOf n) then freshFrom nameOf taken k (n + 1) else nameOf n

/-- A name that is not taken. -/
def fresh (name : String) (taken : List String) : String :=
  if taken.contains name then freshFrom (numbered name) taken taken.length 2 else name

theorem fresh_of_not_mem {name : String} {taken : List String} (h : name ∉ taken) :
    fresh name taken = name := by
  simp [fresh, h]

end Affordance.Text
