import Mathlib.Data.List.Nodup
import Mathlib.Data.List.Perm.Subperm
import Affordance.Text.Fresh

/-!
# The first free name

  * `FirstFree`: the name that an unbounded search finds: the wanted name itself, or the wanted
    name with the least number from two on that makes it free.
  * **`fresh_firstFree`**: `fresh` finds that name, although it passes over no more numbers than
    there are names taken: numbered names are all different (`numbered_injective`), so they
    cannot all be taken.
  * `fresh_not_mem`: in particular the name is free.
-/

namespace Affordance.Text

/-! ## 1. What is searched for -/

/-- The name is the first free one: the wanted name, or else the wanted name with the least
    number from two on that makes it free. -/
def FirstFree (wanted : String) (taken : List String) (name : String) : Prop :=
  name ∉ taken ∧ (name = wanted ∨ wanted ∈ taken ∧ ∃ n, 2 ≤ n ∧ name = numbered wanted n ∧
    ∀ m, 2 ≤ m → m < n → numbered wanted m ∈ taken)

theorem toList_numbered (name : String) (n : Nat) :
    (numbered name n).toList = name.toList ++ '_' :: Nat.toDigits 10 n := by
  simp [numbered]

/-- Different numbers make different names. -/
theorem numbered_injective (name : String) : Function.Injective (numbered name) := by
  intro a b h
  have hchars : name.toList ++ '_' :: Nat.toDigits 10 a =
      name.toList ++ '_' :: Nat.toDigits 10 b := by
    rw [← toList_numbered, ← toList_numbered, h]
  have hdigits : Nat.toDigits 10 a = Nat.toDigits 10 b :=
    (List.cons.inj (List.append_cancel_left hchars)).2
  have hread := congrArg (fun ds => Nat.ofDigitChars 10 ds 0) hdigits
  simpa using hread

/-! ## 2. The search -/

section Search

variable {nameOf : Nat → String}

/-- The search stops at the first number whose name is free, or after `k` numbers. -/
theorem freshFrom_stops (nameOf : Nat → String) (taken : List String) :
    ∀ k n, ∃ m, n ≤ m ∧ freshFrom nameOf taken k n = nameOf m ∧
      (∀ j, n ≤ j → j < m → nameOf j ∈ taken) ∧ (nameOf m ∉ taken ∨ m = n + k)
  | 0, n => ⟨n, Nat.le_refl n, rfl, fun j hj hlt => absurd hlt (Nat.not_lt.mpr hj), .inr rfl⟩
  | k + 1, n => by
    rw [freshFrom]
    split
    · rename_i htaken
      obtain ⟨m, hm, heq, hpassed, hstop⟩ := freshFrom_stops nameOf taken k (n + 1)
      refine ⟨m, Nat.le_of_succ_le hm, heq, fun j hj hlt => ?_, ?_⟩
      · rcases Nat.eq_or_lt_of_le hj with rfl | hj
        · exact List.contains_iff_mem.mp htaken
        · exact hpassed j hj hlt
      · rcases hstop with hfree | hend
        · exact .inl hfree
        · exact .inr (by omega)
    · rename_i hfree
      exact ⟨n, Nat.le_refl n, rfl, fun j hj hlt => absurd hlt (Nat.not_lt.mpr hj),
        .inl fun hmem => hfree (List.contains_iff_mem.mpr hmem)⟩

/-- Of more names than there are names taken, one is free. -/
theorem exists_not_mem (different : Function.Injective nameOf) (taken : List String) (n : Nat) :
    ∃ j, n ≤ j ∧ j ≤ n + taken.length ∧ nameOf j ∉ taken := by
  refine Classical.byContradiction fun hall => ?_
  have hsub : (List.range' n (taken.length + 1)).map nameOf ⊆ taken := by
    intro x hx
    obtain ⟨j, hj, rfl⟩ := List.mem_map.mp hx
    obtain ⟨hlo, hhi⟩ := List.mem_range'_1.mp hj
    exact Classical.byContradiction fun hfree => hall ⟨j, hlo, by omega, hfree⟩
  have hnodup : ((List.range' n (taken.length + 1)).map nameOf).Nodup :=
    List.Nodup.map different List.nodup_range'
  have hlen := (List.subperm_of_subset hnodup hsub).length_le
  rw [List.length_map, List.length_range'] at hlen
  omega

/-- A search through different names finds the first free one, however many are taken. -/
theorem freshFrom_first (different : Function.Injective nameOf) (taken : List String) (n : Nat) :
    ∃ m, n ≤ m ∧ freshFrom nameOf taken taken.length n = nameOf m ∧ nameOf m ∉ taken ∧
      ∀ j, n ≤ j → j < m → nameOf j ∈ taken := by
  obtain ⟨m, hm, heq, hpassed, hfree | rfl⟩ := freshFrom_stops nameOf taken taken.length n
  · exact ⟨m, hm, heq, hfree, hpassed⟩
  · -- all numbers were passed over, so the free one among them is the last
    obtain ⟨j, hlo, hhi, hfree⟩ := exists_not_mem different taken n
    rcases Nat.eq_or_lt_of_le hhi with rfl | hlt
    · exact ⟨_, hm, heq, hfree, hpassed⟩
    · exact absurd (hpassed j hlo hlt) hfree

end Search

/-- **The name that is found is the first free one.** -/
theorem fresh_firstFree (name : String) (taken : List String) :
    FirstFree name taken (fresh name taken) := by
  by_cases htaken : name ∈ taken
  · obtain ⟨m, hm, heq, hfree, hpassed⟩ := freshFrom_first (numbered_injective name) taken 2
    rw [fresh, if_pos (List.contains_iff_mem.mpr htaken), heq]
    exact ⟨hfree, .inr ⟨htaken, m, hm, rfl, hpassed⟩⟩
  · rw [fresh_of_not_mem htaken]
    exact ⟨htaken, .inl rfl⟩

theorem fresh_not_mem (name : String) (taken : List String) : fresh name taken ∉ taken :=
  (fresh_firstFree name taken).1

/-- A name that is taken gets a number. -/
theorem fresh_of_mem {name : String} {taken : List String} (h : name ∈ taken) :
    ∃ n, 2 ≤ n ∧ fresh name taken = numbered name n := by
  obtain ⟨hfree, hsame | ⟨-, n, hn, hname, -⟩⟩ := fresh_firstFree name taken
  · rw [hsame] at hfree
    exact absurd h hfree
  · exact ⟨n, hn, hname⟩

end Affordance.Text
