import Affordance.Text.Basic

/-!
# Source texts with positions

  * A `Source` is a text whose characters are reached by position.  Every
    reader of source code works on one and speaks in positions.
  * `slice`, `at_`, `findChar`, `findFragment`: what readers ask a source.
  * `passWhile` and `passBack`: over a run of characters, forwards and backwards.
    Their lemmas say that a run never leads backwards or out of the text.
-/

namespace Affordance.Text

/-- A text whose characters are reached by position. -/
abbrev Source := Array Char

/-- The source of a string. -/
def Source.of (s : String) : Source := s.toList.toArray

namespace Source

@[simp] theorem size_of (s : String) : (Source.of s).size = s.toList.length := by
  simp [Source.of]

/-! ## 1. Cutting -/

/-- The characters from one position up to another. -/
def slice (src : Source) (from_ to_ : Nat) : List Char := (src.extract from_ to_).toList

/-- The text from one position up to another. -/
def text (src : Source) (from_ to_ : Nat) : String := String.ofList (src.slice from_ to_)

theorem slice_eq (src : Source) (a b : Nat) :
    src.slice a b = (src.toList.take b).drop a := by
  simp only [slice, Array.toList_extract, List.take_drop]
  rcases Nat.le_total a b with h | h
  · rw [Nat.add_sub_cancel' h]
  · rw [List.drop_eq_nil_of_le, List.drop_eq_nil_of_le] <;> simp <;> omega

/-! ## 2. Looking -/

/-- The fragment stands at the position. -/
def at_ (src : Source) (i : Nat) : List Char → Bool
  | [] => true
  | c :: frag => src[i]? == some c && at_ src (i + 1) frag

@[simp] theorem at_nil (src : Source) (i : Nat) : at_ src i [] = true := rfl

theorem at_cons (src : Source) (i : Nat) (c : Char) (frag : List Char) :
    at_ src i (c :: frag) = (src[i]? == some c && at_ src (i + 1) frag) := rfl

/-- The first position from `i` on where the test holds, among the next `n`. -/
def findWithin (test : Nat → Bool) : Nat → Nat → Option Nat
  | 0, _ => none
  | n + 1, i => if test i then some i else findWithin test n (i + 1)

theorem findWithin_some {test : Nat → Bool} {n i j : Nat} (h : findWithin test n i = some j) :
    i ≤ j ∧ j < i + n ∧ test j = true := by
  induction n generalizing i with
  | zero => simp [findWithin] at h
  | succ n ih =>
    simp only [findWithin] at h
    split at h
    · cases h; exact ⟨Nat.le_refl _, by omega, by assumption⟩
    · have := ih h; exact ⟨by omega, by omega, this.2.2⟩

/-- The first position from `i` on that holds the character. -/
def findChar (src : Source) (c : Char) (i : Nat) : Option Nat :=
  findWithin (fun k => src[k]? == some c) (src.size - i) i

/-- The first position from `i` on where the fragment stands. -/
def findFragment (src : Source) (frag : List Char) (i : Nat) : Option Nat :=
  findWithin (fun k => src.at_ k frag) (src.size + 1 - i) i

theorem findChar_some {src : Source} {c : Char} {i j : Nat} (h : src.findChar c i = some j) :
    i ≤ j ∧ j < src.size ∧ src[j]? = some c := by
  have hw := findWithin_some h
  refine ⟨hw.1, by omega, ?_⟩
  simpa using hw.2.2

/-! ## 3. Runs -/

/-- The end of the run of characters of the class, at most `n` long. -/
def passWithin (src : Source) (p : Char → Bool) : Nat → Nat → Nat
  | 0, i => i
  | n + 1, i =>
    match src[i]? with
    | some c => if p c then passWithin src p n (i + 1) else i
    | none => i

/-- The end of the run of characters of the class that begins at the position. -/
def passWhile (src : Source) (p : Char → Bool) (i : Nat) : Nat :=
  passWithin src p (src.size - i) i

theorem le_passWithin (src : Source) (p : Char → Bool) (n i : Nat) : i ≤ passWithin src p n i := by
  induction n generalizing i with
  | zero => exact Nat.le_refl _
  | succ n ih =>
    simp only [passWithin]
    split
    · split
      · exact Nat.le_trans (Nat.le_succ i) (ih (i + 1))
      · exact Nat.le_refl _
    · exact Nat.le_refl _

theorem passWithin_le (src : Source) (p : Char → Bool) (n i : Nat) :
    passWithin src p n i ≤ i + n := by
  induction n generalizing i with
  | zero => exact Nat.le_refl _
  | succ n ih =>
    simp only [passWithin]
    split
    · split
      · exact Nat.le_trans (ih (i + 1)) (by omega)
      · omega
    · omega

theorem le_passWhile (src : Source) (p : Char → Bool) (i : Nat) : i ≤ src.passWhile p i :=
  le_passWithin src p _ i

theorem passWhile_le (src : Source) (p : Char → Bool) {i : Nat} (h : i ≤ src.size) :
    src.passWhile p i ≤ src.size := by
  have := passWithin_le src p (src.size - i) i
  unfold passWhile
  omega

/-- The position after white space. -/
def passSpace (src : Source) (i : Nat) : Nat := src.passWhile isSpace i

/-- The beginning of the run of characters of the class that ends before the position. -/
def passBack (src : Source) (p : Char → Bool) : Nat → Nat
  | 0 => 0
  | i + 1 =>
    match src[i]? with
    | some c => if p c then passBack src p i else i + 1
    | none => i + 1

end Source

end Affordance.Text
