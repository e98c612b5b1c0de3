import Mathlib.Algebra.Group.Nat.Defs
import Affordance.Number.Whole
import Affordance.Text.Entity

/-!
# Decimal digits

  * `numberOfDigits_toDigits`: the decimal digits of a number read back as the number;
    `numberOfDigits_lt`: digits write a number below the power of ten of their count.
  * `head_toDigits`: a positive number has no zero in front.
-/

namespace Affordance.Number

open Affordance.Text

/-! ## 1. Digits -/

theorem isDigitAscii_of_isDigit {c : Char} (h : c.isDigit = true) : isDigitAscii c = true := by
  simp only [isDigitAscii, Bool.and_eq_true, decide_eq_true_eq]
  exact Char.isDigit_iff_toNat.mp h

theorem digits_toDigits (n : Nat) : ∀ c ∈ Nat.toDigits 10 n, isDigitAscii c = true :=
  fun _ hc => isDigitAscii_of_isDigit (Nat.isDigit_of_mem_toDigits (by decide) (by decide) hc)

/-- A positive number has no zero in front. -/
theorem head_toDigits {n : Nat} (h : 0 < n) :
    ∃ c rest, Nat.toDigits 10 n = c :: rest ∧ c ≠ '0' := by
  by_cases hlt : n < 10
  · have hdigit : ∀ k < 10, 0 < k → k.digitChar ≠ '0' := by decide
    exact ⟨n.digitChar, [], Nat.toDigits_of_lt_base hlt, hdigit n hlt h⟩
  · obtain ⟨c, rest, hhead, hc⟩ := head_toDigits (n := n / 10) (by omega)
    refine ⟨c, rest ++ [(n % 10).digitChar], ?_, hc⟩
    rw [Nat.toDigits_of_base_le (by decide) (Nat.not_lt.mp hlt), hhead, List.cons_append]
termination_by n

/-! ## 2. Numbers -/

theorem digitValue_digit {c : Char} (h : isDigitAscii c = true) :
    digitValue 10 c = some (c.toNat - 48) := by
  have hrange := h
  simp only [isDigitAscii, Bool.and_eq_true, decide_eq_true_eq] at hrange
  have hlt : c.toNat - 48 < 10 := by omega
  simp [digitValue, h, Option.filter, hlt]

theorem digitValue_le (c : Char) : (digitValue 10 c).getD 0 ≤ 9 := by
  unfold digitValue
  generalize (if isDigitAscii c then some (c.toNat - 48) else _ : Option Nat) = v
  cases v with
  | none => exact Nat.zero_le 9
  | some n =>
    simp only [Option.filter]
    split
    · rename_i h
      exact Nat.le_of_lt_succ (of_decide_eq_true h)
    · exact Nat.zero_le 9

/-- The decimal digits of a number read back as the number. -/
theorem numberOfDigits_toDigits (n : Nat) : numberOfDigits 10 (Nat.toDigits 10 n) = n := by
  have hfold : ∀ (ds : List Char) (a : Nat), (∀ c ∈ ds, isDigitAscii c = true) →
      ds.foldl (fun n d => n * 10 + (digitValue 10 d).getD 0) a = Nat.ofDigitChars 10 ds a := by
    intro ds
    induction ds with
    | nil => exact fun _ _ => rfl
    | cons d ds ih =>
      intro a hds
      rw [List.foldl_cons, digitValue_digit (hds d List.mem_cons_self), Nat.ofDigitChars_cons,
        ih _ fun c hc => hds c (List.mem_cons_of_mem d hc), Nat.mul_comm]
      rfl
  rw [numberOfDigits, hfold _ _ (digits_toDigits n), Nat.ofDigitChars_ten_toDigits]

/-- Digits write a number below the power of ten of their count. -/
theorem numberOfDigits_lt (ds : List Char) : numberOfDigits 10 ds < 10 ^ ds.length := by
  have hfold : ∀ (ds : List Char) (a : Nat),
      ds.foldl (fun n d => n * 10 + (digitValue 10 d).getD 0) a < (a + 1) * 10 ^ ds.length := by
    intro ds
    induction ds with
    | nil => simp
    | cons d ds ih =>
      intro a
      have hd := digitValue_le d
      have hstep : (a * 10 + (digitValue 10 d).getD 0 + 1) * 10 ^ ds.length ≤
          (a + 1) * 10 * 10 ^ ds.length := Nat.mul_le_mul_right _ (by omega)
      rw [List.foldl_cons, List.length_cons, Nat.pow_succ', ← Nat.mul_assoc]
      exact Nat.lt_of_lt_of_le (ih _) hstep
  have h := hfold ds 0
  rwa [Nat.zero_add, Nat.one_mul] at h

end Affordance.Number
