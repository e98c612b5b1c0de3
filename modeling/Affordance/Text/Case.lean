import Affordance.Text.CaseTable
import Affordance.Text.Class

/-!
# Letter case

  * `lower`: a whole text in small letters.  Two letters need more than a table:
    the dotted capital I becomes two characters, and the capital sigma becomes
    the final form at the end of a word.
  * `upper`: a whole text in capitals; a letter may grow into several.
  * `sameLetter`: a text character that stands for an ASCII letter when case is
    ignored.  Besides the two ASCII forms, the dotted and the dotless i stand
    for `i`, the long s for `s` and the Kelvin sign for `k`.
-/

namespace Affordance.Text

/-! ## 1. Small letters -/

/-- The small form of one character, the capital sigma and the dotted capital I
    aside. -/
def lowerChar (c : Char) : Char :=
  if c.toNat < 128 then
    if isUpperAscii c then Char.ofNat (c.toNat + 32) else c
  else Char.ofNat (mapRuns c.toNat lowerRuns)

/-- A character that is skipped when the case context is looked at. -/
def isCaseIgnorable (c : Char) : Bool :=
  if c.toNat < 128 then ['\'', '.', ':', '^', '`'].contains c
  else inRanges c.toNat caseIgnorableRanges

/-- A character with letter case. -/
def isCased (c : Char) : Bool :=
  if c.toNat < 128 then isLetterAscii c else inRanges c.toNat casedRanges

/-- The first character that matters for the case context has letter case. -/
def nextIsCased : List Char → Bool
  | [] => false
  | c :: rest => if isCaseIgnorable c then nextIsCased rest else isCased c

/-- Small letters, given the characters already passed (latest first). -/
def lowerFrom (before : List Char) : List Char → List Char
  | [] => []
  | c :: rest =>
    let tail := lowerFrom (c :: before) rest
    if c.toNat = 0x3a3 then
      (if nextIsCased before && !nextIsCased rest then Char.ofNat 0x3c2 else Char.ofNat 0x3c3) ::
        tail
    else if c.toNat = 0x130 then 'i' :: Char.ofNat 0x307 :: tail
    else lowerChar c :: tail

/-- A text in small letters. -/
def lower (s : List Char) : List Char := lowerFrom [] s

/-- A text in small letters. -/
def toLower (s : String) : String := String.ofList (lower s.toList)

/-! ## 2. Capitals -/

/-- The capital form of one character. -/
def upperChar (c : Char) : List Char :=
  if c.toNat < 128 then
    [if isLowerAscii c then Char.ofNat (c.toNat - 32) else c]
  else
    match upperSpecial.lookup c.toNat with
    | some ns => ns.map Char.ofNat
    | none => [Char.ofNat (mapRuns c.toNat upperRuns)]

/-- A text in capitals. -/
def toUpper (s : String) : String := String.ofList (s.toList.flatMap upperChar)

/-! ## 3. Case ignored -/

/-- The character stands for the ASCII letter when case is ignored; any other
    character stands for itself alone. -/
def sameLetter (letter c : Char) : Bool :=
  if c.toNat < 128 then lowerChar letter == lowerChar c
  else match lowerChar letter with
    | 'i' => c.toNat == 0x130 || c.toNat == 0x131
    | 's' => c.toNat == 0x17f
    | 'k' => c.toNat == 0x212a
    | l => l == c

end Affordance.Text
