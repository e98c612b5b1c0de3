import Mathlib.Data.List.DropRight
import Affordance.Text.Basic
import Affordance.Text.Class

/-!
# Stripped texts

  * `strip_isPrefix`: a stripped text is what begins a text behind its white space.
  * `strip_strip`: a text is stripped once.
  * `isSpace_head_strip`, `isSpace_last_strip`: a stripped text neither begins nor ends with white
    space; `strip_eq_self`, `strip_of_ends`: a text that does neither is not stripped.
  * `stripEndBy_append_cons`: what stands before a character that stays is kept.
-/

namespace Affordance.Text

variable {a s : List Char} {c d : Char}

theorem stripEndBy_isPrefix (p : Char → Bool) (s : List Char) : stripEndBy p s <+: s := by
  have hsuffix := List.dropWhile_suffix p (l := s.reverse)
  have hprefix := List.reverse_prefix.mpr hsuffix
  rwa [List.reverse_reverse] at hprefix

theorem strip_isPrefix (s : List Char) : strip s <+: s.dropWhile isSpace :=
  stripEndBy_isPrefix isSpace _

/-- A text that does not begin with white space has none to drop. -/
theorem dropWhile_of_head (h : ∀ c ∈ s.head?, isSpace c = false) : s.dropWhile isSpace = s := by
  cases s with
  | nil => rfl
  | cons c s => exact List.dropWhile_cons_of_neg (by rw [h c rfl]; decide)

/-- A stripped text does not begin with white space. -/
theorem dropWhile_strip (s : List Char) : (strip s).dropWhile isSpace = strip s := by
  obtain ⟨u, hu⟩ := strip_isPrefix s
  cases hs : strip s with
  | nil => rfl
  | cons c t =>
    have hnot := List.head?_dropWhile_not isSpace s
    rw [← hu, hs] at hnot
    exact List.dropWhile_cons_of_neg (by simpa using hnot)

theorem strip_strip (s : List Char) : strip (strip s) = strip s := by
  rw [strip, stripBy, dropWhile_strip, strip, stripBy, stripEndBy, stripEndBy,
    List.reverse_reverse, List.dropWhile_idempotent]

/-- A stripped text begins with no white space. -/
theorem isSpace_head_strip (s : List Char) : ∀ c ∈ (strip s).head?, isSpace c = false := by
  intro c hc
  have hnot := List.head?_dropWhile_not isSpace (strip s)
  rw [dropWhile_strip, Option.mem_def.mp hc] at hnot
  simpa using hnot

/-- A stripped text ends with no white space. -/
theorem isSpace_last_strip (s : List Char) : ∀ c ∈ (strip s).getLast?, isSpace c = false := by
  intro c hc
  have hnot := List.head?_dropWhile_not isSpace (s.dropWhile isSpace).reverse
  rw [strip, stripBy, stripEndBy, List.getLast?_reverse] at hc
  rw [Option.mem_def.mp hc] at hnot
  simpa using hnot

/-- What stands before a character that is not of the class is not cut off at the end. -/
theorem stripEndBy_append_cons {p : Char → Bool} (hc : p c = false) (a s : List Char) :
    stripEndBy p (a ++ c :: s) = a ++ c :: stripEndBy p s := by
  have hreverse : (a ++ c :: s).reverse = s.reverse ++ (c :: a.reverse) := by simp
  have hkept : (c :: a.reverse).dropWhile p = c :: a.reverse :=
    List.dropWhile_cons_of_neg (by rw [hc]; decide)
  rw [stripEndBy, hreverse, List.dropWhile_append, stripEndBy]
  split
  · next hempty => simp [hkept, List.isEmpty_iff.mp hempty]
  · simp

/-- A text without white space at its ends is not stripped. -/
theorem strip_of_ends (hfirst : ∀ c ∈ s.head?, isSpace c = false)
    (hlast : ∀ c ∈ s.getLast?, isSpace c = false) : strip s = s := by
  rw [strip, stripBy, dropWhile_of_head hfirst]
  obtain rfl | ⟨init, d, rfl⟩ := List.eq_nil_or_concat' s
  · rfl
  · exact stripEndBy_append_cons (hlast d (by simp)) init []

/-- A text that neither begins nor ends with white space is not stripped. -/
theorem strip_eq_self (hc : isSpace c = false) (hd : isSpace d = false) :
    strip (c :: (s ++ [d])) = c :: (s ++ [d]) := by
  refine strip_of_ends (fun x hx => ?_) fun x hx => ?_
  · cases hx
    exact hc
  · rw [← List.cons_append, List.getLast?_append, List.getLast?_singleton, Option.some_or] at hx
    cases hx
    exact hd

end Affordance.Text
