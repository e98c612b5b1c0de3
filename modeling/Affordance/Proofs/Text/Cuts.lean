import Mathlib.Data.List.Infix

/-!
# Texts cut in two ways

What follows from two ways to cut one text into pieces.

  * `within_of_cut`: a piece without some character lies on one side of it.
  * `behind_of_cut`, `beyond_of_cut`: a character that does not stand in the end of a text stands
    before it, and one that does not stand in the beginning stands behind that.
  * `EndsApart`: a text does not end with a character of a class. **`trailing_eq`**: what stands
    before a run of the class is determined by such an end; `leading_eq`: a run at the beginning.
-/

namespace Affordance.Text

variable {a b t u v x y : List Char} {c sep : Char}

/-! ## 1. Cuts at a character -/

/-- A piece without the separator lies before it or behind it. -/
theorem within_of_cut (h : u ++ t ++ v = x ++ sep :: y) (ht : sep ∉ t) :
    (∃ w, x = u ++ t ++ w ∧ v = w ++ sep :: y) ∨ (∃ w, y = w ++ t ++ v ∧ u = x ++ sep :: w) := by
  rcases List.append_eq_append_iff.mp h with ⟨w, hx, hv⟩ | ⟨w, hut, hy⟩
  · exact .inl ⟨w, hx, hv⟩
  · cases w with
    | nil => exact .inl ⟨[], by rw [hut, List.append_nil, List.append_nil], hy.symm⟩
    | cons d w =>
      obtain ⟨rfl, rfl⟩ := List.cons.inj hy
      -- The separator stands in the first two pieces, so in the first.
      rcases List.append_eq_append_iff.mp hut with ⟨w', hx, ht'⟩ | ⟨w', hu, ht'⟩
      · exact absurd (ht' ▸ List.mem_append_right w' List.mem_cons_self) ht
      · cases w' with
        | nil =>
          rw [List.nil_append] at ht'
          exact absurd (ht' ▸ List.mem_cons_self) ht
        | cons d w' =>
          rw [List.cons_append] at ht'
          obtain ⟨rfl, rfl⟩ := List.cons.inj ht'
          exact .inr ⟨w', rfl, hu⟩

/-- A character that the end of a text does not hold stands before that end. -/
theorem behind_of_cut (h : x ++ y = a ++ c :: b) (hy : c ∉ y) : ∃ w, x = a ++ c :: w := by
  rcases List.append_eq_append_iff.mp h with ⟨w, ha, hy'⟩ | ⟨w, hx, hb⟩
  · exact absurd (hy' ▸ List.mem_append_right w List.mem_cons_self) hy
  · cases w with
    | nil =>
      rw [List.nil_append] at hb
      exact absurd (hb ▸ List.mem_cons_self) hy
    | cons d w =>
      obtain ⟨rfl, -⟩ := List.cons.inj hb
      exact ⟨w, hx⟩

/-- A character that the beginning of a text does not hold stands behind that beginning. -/
theorem beyond_of_cut (h : x ++ y = a ++ c :: b) (hx : c ∉ x) : ∃ w, y = w ++ c :: b := by
  rcases List.append_eq_append_iff.mp h with ⟨w, -, hy⟩ | ⟨w, rfl, hb⟩
  · exact ⟨w, hy⟩
  · cases w with
    | nil => exact ⟨[], hb.symm⟩
    | cons d w =>
      obtain ⟨rfl, -⟩ := List.cons.inj hb
      exact absurd (List.mem_append_right a List.mem_cons_self) hx

/-! ## 2. Runs at the end -/

/-- The text does not end with a character of the class. -/
def EndsApart (p : Char → Bool) (s : List Char) : Prop := ∀ c ∈ s.getLast?, p c = false

section Runs

variable {p : Char → Bool}

theorem endsApart_nil : EndsApart p [] := fun _ h => nomatch h

theorem endsApart_append_cons (s : List Char) (hc : p c = false) : EndsApart p (s ++ [c]) := by
  intro d hd
  rw [List.getLast?_append, List.getLast?_singleton, Option.some_or] at hd
  cases hd
  exact hc

/-- A text ends apart if its last piece does. -/
theorem EndsApart.append (ht : EndsApart p t) (hne : t ≠ []) (s : List Char) :
    EndsApart p (s ++ t) := by
  obtain ⟨init, c, rfl⟩ := List.eq_nil_or_concat' t |>.resolve_left hne
  rw [← List.append_assoc]
  refine endsApart_append_cons _ (ht c ?_)
  simp

theorem endsApart_of_forall (h : ∀ c ∈ t, p c = false) : EndsApart p t :=
  fun c hc => h c (List.mem_of_getLast? hc)

/-- A run at the beginning of a text is determined by its class. -/
theorem leading_eq (h : a ++ u = b ++ v) (ha : ∀ c ∈ a, p c = true) (hb : ∀ c ∈ b, p c = true)
    (hu : ∀ c ∈ u.head?, p c = false) (hv : ∀ c ∈ v.head?, p c = false) : a = b ∧ u = v := by
  have htake : ∀ {a u : List Char}, (∀ c ∈ a, p c = true) → (∀ c ∈ u.head?, p c = false) →
      (a ++ u).takeWhile p = a := by
    intro a u ha hu
    rw [List.takeWhile_append_of_pos ha]
    cases u with
    | nil => exact List.append_nil a
    | cons c u => rw [List.takeWhile_cons_of_neg (by rw [hu c rfl]; decide), List.append_nil]
  obtain rfl : a = b := by rw [← htake ha hu, h, htake hb hv]
  exact ⟨rfl, List.append_cancel_left h⟩

/-- **What stands before a run at the end of a text** is determined by the class of the run. -/
theorem trailing_eq (h : a ++ u = b ++ v) (ha : EndsApart p a) (hb : EndsApart p b)
    (hu : ∀ c ∈ u, p c = true) (hv : ∀ c ∈ v, p c = true) : a = b ∧ u = v := by
  have key : ∀ {a b u v w : List Char}, EndsApart p b → (∀ c ∈ u, p c = true) → b = a ++ w →
      u = w ++ v → w = [] := by
    intro a b u v w hb hu hbw hw
    rcases List.eq_nil_or_concat' w with rfl | ⟨w', z, rfl⟩
    · rfl
    · have hlast : p z = false := hb z (by rw [hbw]; simp)
      rw [hu z (by rw [hw]; simp)] at hlast
      cases hlast
  rcases List.append_eq_append_iff.mp h with ⟨w, hbw, hw⟩ | ⟨w, haw, hw⟩
  · obtain rfl := key hb hu hbw hw
    rw [List.append_nil] at hbw
    exact ⟨hbw.symm, hw⟩
  · obtain rfl := key ha hv haw hw
    rw [List.append_nil] at haw
    exact ⟨haw, hw.symm⟩

end Runs

end Affordance.Text
