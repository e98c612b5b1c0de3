import Affordance.Proofs.Script.Tree

/-!
# Names and white space in tags

  * No white space belongs to a name (`isTagNameChar_of_isSpace`), and neither white space nor a
    name holds a character that means something inside a tag (`ne_of_class`).
  * `EndsName`: the texts before which a name ends and no value follows. In a tag every name
    ends before such a text or before an equality sign.
  * `tagNameEnd_ahead`, `passSpace_ahead`: names and white space are passed to their ends.
-/

namespace Affordance.Script

open Affordance.Text
open Affordance.Text.Source (Ahead)

/-! ## 1. Classes of characters -/

/-- A character of a class is none that is not in the class. -/
theorem ne_of_class {p : Char → Bool} {c d : Char} (h : p c = true) (hd : p d = false) : c ≠ d := by
  rintro rfl
  rw [h] at hd
  cases hd

/-- The code points of white space. -/
def spaceCodes : List Nat :=
  [9, 10, 11, 12, 13, 28, 29, 30, 31, 32, 133, 160, 0x1680, 0x2000, 0x2001, 0x2002, 0x2003, 0x2004,
    0x2005, 0x2006, 0x2007, 0x2008, 0x2009, 0x200a, 0x2028, 0x2029, 0x202f, 0x205f, 0x3000]

theorem mem_spaceCodes {c : Char} (h : isSpace c = true) : c.toNat ∈ spaceCodes := by
  simp only [isSpace, Bool.or_eq_true, Bool.and_eq_true, decide_eq_true_eq, beq_iff_eq] at h
  simp only [spaceCodes, List.mem_cons, List.not_mem_nil, or_false]
  omega

/-- **No white space belongs to a name.** -/
theorem isTagNameChar_of_isSpace {c : Char} (h : isSpace c = true) : isTagNameChar c = false := by
  have hcodes : ∀ n ∈ spaceCodes, isTagNameChar (Char.ofNat n) = false := by decide +kernel
  have := hcodes c.toNat (mem_spaceCodes h)
  rwa [Char.ofNat_toNat] at this

theorem isSpace_of_isTagNameChar {c : Char} (h : isTagNameChar c = true) : isSpace c = false := by
  cases hs : isSpace c with
  | false => rfl
  | true =>
    rw [isTagNameChar_of_isSpace hs] at h
    cases h

theorem toNat_of_isLetterAscii {c : Char} (h : isLetterAscii c = true) :
    65 ≤ c.toNat ∧ c.toNat ≤ 122 := by
  simp only [isLetterAscii, isUpperAscii, isLowerAscii, Bool.or_eq_true, Bool.and_eq_true,
    decide_eq_true_eq] at h
  omega

theorem isLetter_of_isLetterAscii {c : Char} (h : isLetterAscii c = true) : isLetter c = true := by
  have := toNat_of_isLetterAscii h
  rw [isLetter, if_pos (by omega)]
  exact h

theorem isNameStart_cases {c : Char} (h : isNameStart c = true) :
    isLetterAscii c = true ∨ c = '_' ∨ c = '$' := by
  simpa only [isNameStart, Bool.or_eq_true, beq_iff_eq, or_assoc] using h

theorem isNameChar_of_isNameStart {c : Char} (h : isNameStart c = true) : isNameChar c = true := by
  rcases isNameStart_cases h with hc | rfl | rfl
  · simp [isNameChar, isWord_of_isLetter (isLetter_of_isLetterAscii hc)]
  · decide
  · decide

theorem isTagNameChar_of_isNameChar {c : Char} (h : isNameChar c = true) :
    isTagNameChar c = true := by
  simp [isTagNameChar, h]

/-- A class without the characters of a list has none of them. -/
theorem free_of_class {p : Char → Bool} {l : List Char} {c : Char} (h : p c = true)
    (hl : l.all (!p ·) = true) : (!l.contains c) = true := by
  have hc : c ∉ l := by
    intro hmem
    have hp := List.all_eq_true.mp hl c hmem
    rw [h] at hp
    cases hp
  simpa using hc

theorem isPlain_of_isNameChar {c : Char} (h : isNameChar c = true) : isPlain c = true :=
  free_of_class h (by decide +kernel)

/-- The characters of an identifier mean nothing to the scanner. -/
theorem Word.isPlain (w : Word) : ∀ c ∈ w.chars, Script.isPlain c = true := by
  intro c hc
  rcases List.mem_cons.mp hc with rfl | hc
  · exact isPlain_of_isNameChar (isNameChar_of_isNameStart w.starts)
  · exact isPlain_of_isNameChar (w.goesOn c hc)

/-! ## 2. Names -/

namespace Name

variable (n : Name)

theorem isTagNameChar_first : isTagNameChar n.first = true :=
  isTagNameChar_of_isNameChar (isNameChar_of_isNameStart n.starts)

theorem isTagNameChar_chars : ∀ c ∈ n.chars, isTagNameChar c = true := by
  intro c hc
  rcases List.mem_cons.mp hc with rfl | hc
  · exact n.isTagNameChar_first
  · exact n.goesOn c hc

theorem isSpace_first : isSpace n.first = false := isSpace_of_isTagNameChar n.isTagNameChar_first

theorem not_mem {d : Char} (hd : isTagNameChar d = false) : d ∉ n.chars :=
  fun h => ne_of_class (n.isTagNameChar_chars d h) hd rfl

end Name

theorem Blank.not_mem (gap : Blank) : '>' ∉ gap.chars :=
  fun hmem => ne_of_class (gap.isBlank _ hmem) (by decide) rfl

/-- A closing tag has its angle bracket at its end only. -/
theorem not_mem_closing (n : Name) (gap : Blank) : '>' ∉ n.chars ++ gap.chars := by
  intro hmem
  rcases List.mem_append.mp hmem with hmem | hmem
  · exact n.not_mem (by decide +kernel) hmem
  · exact gap.not_mem hmem

variable {src : Source}

/-- A name is passed to its end. -/
theorem tagNameEnd_ahead {n : Name} {i : Nat} {s : List Char} (h : src.Ahead i (n.chars ++ s))
    (hs : ∀ c ∈ s.head?, isTagNameChar c = false) :
    tagNameEnd src i = some (i + n.chars.length) := by
  have hrest : src.Ahead (i + 1) (n.rest ++ s) := h.tail
  rw [tagNameEnd, h.head]
  dsimp only
  rw [if_pos n.starts, hrest.passWhile n.goesOn hs, Name.chars, List.length_cons]
  congr 1
  omega

/-- White space is passed to its end. -/
theorem passSpace_ahead {gap : Blank} {i : Nat} {s : List Char} (h : src.Ahead i (gap.chars ++ s))
    (hs : ∀ c ∈ s.head?, isSpace c = false) : src.passSpace i = i + gap.chars.length :=
  h.passWhile gap.isBlank hs

theorem passSpace_self {i : Nat} {c : Char} (h : src[i]? = some c) (hc : isSpace c = false) :
    src.passSpace i = i := by
  have hi := lt_size h
  unfold Source.passSpace Source.passWhile
  rw [show src.size - i = (src.size - i - 1) + 1 by omega, Source.passWithin, h]
  dsimp only
  rw [if_neg (by rw [hc]; decide)]

/-! ## 3. What follows a name -/

/-- A name ends before the text, and no equality sign follows the white space. -/
structure EndsName (s : List Char) : Prop where
  ends : ∀ c ∈ s.head?, isTagNameChar c = false
  novalue : ∃ (gap : Blank) (d : Char) (r : List Char),
    s = gap.chars ++ d :: r ∧ isSpace d = false ∧ d ≠ '='

/-- White space ends a name. -/
theorem isTagNameChar_head_blank {gap : Blank} {s : List Char} {d : Char}
    (hd : isTagNameChar d = false) :
    ∀ c ∈ (gap.chars ++ d :: s).head?, isTagNameChar c = false := by
  intro c hc
  cases hgap : gap.chars with
  | nil =>
    rw [hgap] at hc
    cases hc
    exact hd
  | cons b bs =>
    rw [hgap] at hc
    obtain rfl : b = c := Option.some.inj hc
    exact isTagNameChar_of_isSpace (gap.isBlank b (by rw [hgap]; exact List.mem_cons_self))

/-- The end of a tag ends a name. -/
theorem EndsName.close {gap : Blank} {d : Char} (r : List Char) (hd : d = '>' ∨ d = '/') :
    EndsName (gap.chars ++ d :: r) := by
  refine ⟨isTagNameChar_head_blank ?_, gap, d, r, rfl, ?_, ?_⟩
  · rcases hd with rfl | rfl <;> decide +kernel
  · rcases hd with rfl | rfl <;> decide
  · rcases hd with rfl | rfl <;> decide

/-- The next attribute ends a name. -/
theorem EndsName.attribute (a : Attribute) (s : List Char) : EndsName (a.render ++ s) := by
  obtain ⟨b, bs, hgap⟩ := List.exists_cons_of_ne_nil a.apart
  refine ⟨?_, a.gap, a.name.first, a.name.rest ++ (a.value.render ++ s), ?_, ?_, ?_⟩
  · intro c hc
    rw [Attribute.render, hgap] at hc
    obtain rfl : b = c := Option.some.inj hc
    exact isTagNameChar_of_isSpace (a.gap.isBlank b (by rw [hgap]; exact List.mem_cons_self))
  · simp only [Attribute.render, Name.chars, List.append_assoc, List.cons_append]
  · exact a.name.isSpace_first
  · exact ne_of_class a.name.starts (by decide)

/-- Attributes, white space and the end of a tag end a name. -/
theorem EndsName.attributes (as : List Attribute) (gap : Blank) {d : Char} (r : List Char)
    (hd : d = '>' ∨ d = '/') : EndsName (renderAttributes as ++ (gap.chars ++ d :: r)) := by
  cases as with
  | nil => exact EndsName.close r hd
  | cons a as =>
    rw [renderAttributes, List.flatMap_cons, List.append_assoc]
    exact EndsName.attribute a _

end Affordance.Script
