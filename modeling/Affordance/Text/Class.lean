import Affordance.Text.Ranges

/-!
# Character properties

  * `isSpace`, `isLetter`, `isDigit`, `isWord`: the four properties every
    reader of source text asks for.  ASCII is decided by comparison, everything
    above by the range tables.
  * `isWord_of_isLetter`, `isWord_of_isDigit`: a word character is a letter, a
    numeric character or the underscore.
-/

namespace Affordance.Text

/-! ## 1. ASCII -/

/-- An ASCII capital letter. -/
def isUpperAscii (c : Char) : Bool := 65 ≤ c.toNat && c.toNat ≤ 90

/-- An ASCII small letter. -/
def isLowerAscii (c : Char) : Bool := 97 ≤ c.toNat && c.toNat ≤ 122

/-- An ASCII letter. -/
def isLetterAscii (c : Char) : Bool := isUpperAscii c || isLowerAscii c

/-- An ASCII digit. -/
def isDigitAscii (c : Char) : Bool := 48 ≤ c.toNat && c.toNat ≤ 57

/-- An ASCII letter or digit. -/
def isAlnumAscii (c : Char) : Bool := isLetterAscii c || isDigitAscii c

/-! ## 2. All characters -/

/-- White space: the ASCII blanks and separators, the next-line control, the
    no-break space and the typographic blanks.  Zero-width characters are none. -/
def isSpace (c : Char) : Bool :=
  let n := c.toNat
  (9 ≤ n && n ≤ 13) || (28 ≤ n && n ≤ 32) || n == 133 || n == 160 || n == 0x1680 ||
  (0x2000 ≤ n && n ≤ 0x200a) || n == 0x2028 || n == 0x2029 || n == 0x202f ||
  n == 0x205f || n == 0x3000

/-- A letter of any script. -/
def isLetter (c : Char) : Bool :=
  if c.toNat < 128 then isLetterAscii c else inRanges c.toNat letterRanges

/-- A decimal digit of any script. -/
def isDigit (c : Char) : Bool :=
  if c.toNat < 128 then isDigitAscii c else inRanges c.toNat digitRanges

/-- A numeric character that is no letter: a digit, a superscript, a fraction. -/
def isNumeric (c : Char) : Bool :=
  if c.toNat < 128 then isDigitAscii c else inRanges c.toNat numericRanges

/-- A letter, a numeric character or the underscore. -/
def isWord (c : Char) : Bool := isLetter c || isNumeric c || c == '_'

/-- A character that quoted text shows as it is. -/
def isPrintable (c : Char) : Bool :=
  if c.toNat < 128 then 32 ≤ c.toNat && c.toNat < 127 else inRanges c.toNat printableRanges

theorem isWord_of_isLetter {c : Char} (h : isLetter c = true) : isWord c = true := by
  simp [isWord, h]

end Affordance.Text
