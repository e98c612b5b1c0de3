import Affordance.Text.Basic
import Affordance.Text.Case

/-!
# Names made from text

  * `snake`: a text as words of ASCII small letters and digits, joined by
    underscores.  A word ends at any other character, before a capital that
    follows a small letter or a digit, and before the last capital of a run that
    a small letter follows.
  * `pascal`: the words of a text with a capital first letter each.
  * `snakeWords_alnum`: no word is empty, and each holds small letters and digits
    alone.
-/

namespace Affordance.Text

/-! ## 1. Words -/

/-- A new word begins at `c`, given the character before it and the text after it. -/
def isHump (before c : Char) : List Char → Bool
  | [] => isUpperAscii c && (isLowerAscii before || isDigitAscii before)
  | next :: _ =>
    isUpperAscii c &&
      (isLowerAscii before || isDigitAscii before || (isUpperAscii before && isLowerAscii next))

/-- A word that was read backwards, if there is one. -/
def flush (cur : List Char) : List (List Char) := if cur.isEmpty then [] else [cur.reverse]

/-- The words of a text, given the word read so far, latest character first. -/
def humpWords : List Char → List Char → List (List Char)
  | cur, [] => flush cur
  | cur, c :: rest =>
    if isAlnumAscii c then
      match cur with
      | [] => humpWords [c] rest
      | p :: _ =>
        if isHump p c rest then flush cur ++ humpWords [c] rest else humpWords (c :: cur) rest
    else flush cur ++ humpWords [] rest

/-- The words of a text in small letters. -/
def snakeWords (s : List Char) : List (List Char) := (humpWords [] s).map (·.map lowerChar)

/-- A text as words joined by underscores. -/
def snake (s : String) : String := String.ofList (joinChars ['_'] (snakeWords s.toList))

@[simp] theorem flush_nil : flush [] = [] := rfl

theorem mem_flush {cur w : List Char} (h : w ∈ flush cur) : cur ≠ [] ∧ w = cur.reverse := by
  unfold flush at h
  split at h
  · cases h
  · rename_i hc
    exact ⟨fun e => hc (by simp [e]), by simpa using h⟩

theorem humpWords_alnum (s cur w : List Char) (hcur : ∀ c ∈ cur, isAlnumAscii c = true)
    (h : w ∈ humpWords cur s) : w ≠ [] ∧ ∀ c ∈ w, isAlnumAscii c = true := by
  have hflush : ∀ w ∈ flush cur, w ≠ [] ∧ ∀ c ∈ w, isAlnumAscii c = true := by
    intro w hw
    obtain ⟨hne, rfl⟩ := mem_flush hw
    exact ⟨by simpa using hne, fun c hc => hcur c (by simpa using hc)⟩
  induction s generalizing cur with
  | nil => exact hflush w h
  | cons c rest ih =>
    simp only [humpWords] at h
    split at h
    · rename_i hc
      have hone : ∀ d ∈ [c], isAlnumAscii d = true := by simpa using hc
      have hflush1 : ∀ w ∈ flush [c], w ≠ [] ∧ ∀ c ∈ w, isAlnumAscii c = true := by
        intro w hw
        obtain ⟨hne, rfl⟩ := mem_flush hw
        exact ⟨by simp, fun d hd => hone d (by simpa using hd)⟩
      split at h
      · exact ih [c] hone h hflush1
      · rename_i p tail
        split at h
        · rcases List.mem_append.mp h with h | h
          · exact hflush w h
          · exact ih [c] hone h hflush1
        · have hall : ∀ d ∈ c :: p :: tail, isAlnumAscii d = true := by
            intro d hd
            rcases List.mem_cons.mp hd with rfl | hd
            · exact hc
            · exact hcur d hd
          refine ih (c :: p :: tail) hall h ?_
          intro w hw
          obtain ⟨hne, rfl⟩ := mem_flush hw
          exact ⟨by simp, fun d hd => hall d (List.mem_reverse.mp hd)⟩
    · rcases List.mem_append.mp h with h | h
      · exact hflush w h
      · exact ih [] (by simp) h (by simp)

/-- The small form of an ASCII letter or digit is a small letter or a digit. -/
theorem lowerChar_alnum {c : Char} (h : isAlnumAscii c = true) :
    isLowerAscii (lowerChar c) = true ∨ isDigitAscii (lowerChar c) = true := by
  have hascii : c.toNat < 128 := by
    simp only [isAlnumAscii, isLetterAscii, isUpperAscii, isLowerAscii, isDigitAscii,
      Bool.or_eq_true, Bool.and_eq_true, decide_eq_true_eq] at h
    omega
  have hall : ∀ n < 128, isAlnumAscii (Char.ofNat n) = true →
      isLowerAscii (lowerChar (Char.ofNat n)) = true ∨
        isDigitAscii (lowerChar (Char.ofNat n)) = true := by decide +kernel
  have hc := hall c.toNat hascii
  rw [Char.ofNat_toNat] at hc
  exact hc h

/-- No word is empty, and each holds small letters and digits alone. -/
theorem snakeWords_alnum {s w : List Char} (h : w ∈ snakeWords s) :
    w ≠ [] ∧ ∀ c ∈ w, isLowerAscii c = true ∨ isDigitAscii c = true := by
  obtain ⟨v, hv, rfl⟩ := List.mem_map.mp h
  obtain ⟨hne, halnum⟩ := humpWords_alnum s [] v (by simp) hv
  refine ⟨by simpa using hne, fun c hc => ?_⟩
  obtain ⟨d, hd, rfl⟩ := List.mem_map.mp hc
  exact lowerChar_alnum (halnum d hd)

/-! ## 2. Capitalised words -/

/-- The maximal runs of ASCII letters and digits, given the run read so far. -/
def alnumRuns : List Char → List Char → List (List Char)
  | cur, [] => flush cur
  | cur, c :: rest =>
    if isAlnumAscii c then alnumRuns (c :: cur) rest else flush cur ++ alnumRuns [] rest

/-- A word with a capital first letter. -/
def capitalise : List Char → List Char
  | [] => []
  | c :: rest => upperChar c ++ rest

/-- The words of a text, each with a capital first letter; a text without words
    names the generic component. -/
def pascal (s : String) : String :=
  match (alnumRuns [] s.toList).flatMap capitalise with
  | [] => "Component"
  | cs => String.ofList cs

end Affordance.Text
