import Affordance.Text.Basic

/-!
# Halves of surrogate pairs

  * A JSON text may name one half of a surrogate pair alone.  A half is no character, so
    it is held as a character of the last private plane that stands for it: `charOfHalf`.
  * `half?` tells the characters that stand for halves from all others.
    `half?_charOfHalf` says that what is held is found again, `half?_eq_none` that no
    character below the last plane stands for a half.
  * RESTRICTION: the characters U+10D800 to U+10DFFF, which are private and stand for nothing of
    their own, are read as halves.  What is said of halves holds of texts without them.
-/

namespace Affordance.Text

/-- The number of sixteen binary digits is a half of a surrogate pair. -/
def isHalf (n : Nat) : Bool := 0xd800 ≤ n && n ≤ 0xdfff

/-- How far the character that stands for a half lies above it. -/
def halfShift : Nat := 0x100000

/-- The character that stands for a half, one of U+10D800 to U+10DFFF. -/
def charOfHalf (n : Nat) : Char := Char.ofNat (halfShift + n)

/-- The half that a character stands for.  A text that holds one of U+10D800 to U+10DFFF as a
    character of its own is taken for one with a half. -/
def half? (c : Char) : Option Nat :=
  if halfShift ≤ c.toNat && isHalf (c.toNat - halfShift) then some (c.toNat - halfShift)
  else none

/-- The character of a number of sixteen binary digits. -/
def charOfUnit (n : Nat) : Char := if isHalf n then charOfHalf n else Char.ofNat n

theorem toNat_charOfHalf {n : Nat} (h : isHalf n) : (charOfHalf n).toNat = halfShift + n := by
  simp only [isHalf, Bool.and_eq_true, decide_eq_true_eq] at h
  have valid : (halfShift + n).isValidChar := by
    right; simp only [halfShift]; omega
  rw [charOfHalf, Char.ofNat, dif_pos valid]
  rfl

theorem half?_charOfHalf {n : Nat} (h : isHalf n) : half? (charOfHalf n) = some n := by
  simp [half?, toNat_charOfHalf h, h]

theorem half?_eq_none {c : Char} (h : c.toNat < halfShift) : half? c = none := by
  simp [half?, Nat.not_le.2 h]

end Affordance.Text
