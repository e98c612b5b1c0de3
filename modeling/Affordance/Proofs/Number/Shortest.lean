import Affordance.Number.Measure
import Affordance.Proofs.Number.Digits

/-!
# The digits of a measure

  * `fewestDigits_pos`: the number that is written for a value that is not zero is not zero.
  * `leads_dropZeros`: its digits without the zeros at their end are digits that begin with
    none.
  * `exists_leads`: so these are the digits that are written.
-/

namespace Affordance.Number.Measure

open Affordance.Text

/-! ## 1. The number that is written -/

theorem nearest_zero (e : Int) : nearest (timesTen (mkRat 0 1) e) = 0 := by
  rw [timesTen, Rat.zero_mkRat, Rat.zero_mul]
  rfl

theorem le_roundQuotient (n d : Nat) : n / d ≤ roundQuotient n d := by
  unfold roundQuotient
  dsimp only
  split
  · exact Nat.le_succ _
  · exact Nat.le_refl _

theorem floor_le_quotient (q : Rat) : q.floor.toNat ≤ q.num.natAbs / q.den := by
  have hle : q.num / (q.den : Int) ≤ (q.num.natAbs : Int) / q.den :=
    Int.ediv_le_ediv (Int.natCast_pos.mpr q.den_pos) Int.le_natAbs
  rw [Rat.floor_def, Int.toNat_le, Int.natCast_ediv]
  exact hle

/-- A neighbour that reads back as a value that is not zero is not zero. -/
theorem gridHit_pos {q : Rat} (hq : q ≠ 0) {e : Int} {m : Nat} (h : gridHit q e = some m) :
    0 < m := by
  unfold gridHit at h
  generalize timesTen q (-e) = scaled at h
  dsimp only at h
  have hbelow : (nearest (timesTen (mkRat scaled.floor.toNat 1) e) == q) = true →
      0 < scaled.floor.toNat := by
    intro hread
    refine Nat.pos_of_ne_zero fun hzero => ?_
    rw [hzero, Int.natCast_zero, nearest_zero, beq_iff_eq] at hread
    exact hq hread.symm
  split at h
  · rename_i hboth
    obtain rfl := Option.some.inj h
    calc 0 < scaled.floor.toNat := hbelow (Bool.and_eq_true_iff.mp hboth).1
      _ ≤ scaled.num.natAbs / scaled.den := floor_le_quotient scaled
      _ ≤ roundQuotient scaled.num.natAbs scaled.den := le_roundQuotient _ _
  · split at h
    · rename_i hread
      obtain rfl := Option.some.inj h
      exact hbelow hread
    · split at h
      · obtain rfl := Option.some.inj h
        exact Nat.succ_pos _
      · cases h

/-- **The number that is written for a value that is not zero is not zero.** -/
theorem fewestDigits_pos {q : Rat} (hq : q ≠ 0) (k : Int) : ∀ n, 0 < (fewestDigits q k n).1
  | 0 => Nat.le_max_left 1 _
  | n + 1 => by
    unfold fewestDigits
    dsimp only
    cases hhit : gridHit q (k - (17 - n : Nat)) with
    | some m => exact gridHit_pos hq hhit
    | none => exact fewestDigits_pos hq k n

/-! ## 2. Its digits -/

/-- Digits, of which the first one is not zero. -/
def Leads (ds : List Char) : Prop :=
  (∀ c ∈ ds, isDigitAscii c = true) ∧ ∃ c rest, ds = c :: rest ∧ c ≠ '0'

theorem leads_decimal {n : Nat} (h : 0 < n) : Leads (decimal n) :=
  ⟨digits_toDigits n, head_toDigits h⟩

/-- What is cut off at the end leaves a first character that is not of the class. -/
theorem stripEndBy_cons {p : Char → Bool} {c : Char} (hc : p c = false) (s : List Char) :
    ∃ rest, stripEndBy p (c :: s) = c :: rest ∧ rest ⊆ s := by
  unfold stripEndBy
  rw [List.reverse_cons, List.dropWhile_append]
  split
  · refine ⟨[], ?_, List.nil_subset s⟩
    rw [List.dropWhile_cons_of_neg (by rw [hc]; decide)]
    rfl
  · refine ⟨(s.reverse.dropWhile p).reverse, by simp, fun d hd => ?_⟩
    exact List.mem_reverse.mp ((List.dropWhile_sublist p).subset (List.mem_reverse.mp hd))

theorem leads_dropZeros {ds : List Char} (h : Leads ds) (e : Int) : Leads (dropZeros ds e).1 := by
  obtain ⟨hdigits, c, rest, rfl, hc⟩ := h
  obtain ⟨kept, hkept, hsub⟩ := stripEndBy_cons (p := (· == '0')) (by simpa using hc) rest
  have hfirst : (dropZeros (c :: rest) e).1 = c :: kept := hkept
  rw [hfirst]
  exact ⟨fun d hd => hdigits d (List.cons_subset_cons c hsub hd), c, kept, rfl, hc⟩

/-- **A value that is not zero is written as digits that do not begin with a zero**, with the
    point at some place. -/
theorem exists_leads {q : Rat} (hq : q ≠ 0) :
    ∃ ds point, Leads ds ∧ shortestPositive q = placePoint ds point := by
  unfold shortestPositive
  dsimp only
  exact ⟨_, _, leads_dropZeros (leads_decimal (fewestDigits_pos hq _ _)) _, rfl⟩

end Affordance.Number.Measure
