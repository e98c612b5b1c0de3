import Affordance.Text.Class

/-!
# Text operations

  * Texts are cut and searched as lists of characters; `String` is what domain
    values hold.  The functions here come in pairs: one on lists, and one of the
    same meaning on strings where domain code needs it.
  * `strip`, `stripBy`: cut at both ends; `nonEmpty`: a text, unless it is empty.
  * `isInfix`, `startsWith`, `endsWith`, `replace`, `splitOn`, `join`.
  * `lines`: a text cut at every line boundary, ASCII or not, without a last
    empty line.
-/

namespace Affordance.Text

/-! ## 1. Cutting at the ends -/

/-- The text without the characters of the class at its end. -/
def stripEndBy (p : Char → Bool) (s : List Char) : List Char := (s.reverse.dropWhile p).reverse

/-- The text without the characters of the class at both ends. -/
def stripBy (p : Char → Bool) (s : List Char) : List Char := stripEndBy p (s.dropWhile p)

/-- The text without white space at both ends. -/
def strip (s : List Char) : List Char := stripBy isSpace s

/-- The text without white space at its end. -/
def stripEnd (s : List Char) : List Char := stripEndBy isSpace s

/-- The text without white space at both ends. -/
def trim (s : String) : String := String.ofList (strip s.toList)

/-- A text, unless it is empty. -/
def nonEmpty (s : Option String) : Option String := s.filter (· ≠ "")

@[simp] theorem nonEmpty_none : nonEmpty none = none := rfl

theorem nonEmpty_eq_some {s : Option String} {t : String} :
    nonEmpty s = some t ↔ s = some t ∧ t ≠ "" := by
  cases s <;> grind [nonEmpty, Option.filter]

/-! ## 2. Searching -/

/-- The text begins with the fragment. -/
def startsWith : List Char → List Char → Bool
  | _, [] => true
  | [], _ :: _ => false
  | c :: s, d :: frag => c == d && startsWith s frag

@[simp] theorem startsWith_nil (s : List Char) : startsWith s [] = true := by cases s <;> rfl

theorem startsWith_iff (s frag : List Char) :
    startsWith s frag = true ↔ ∃ rest, s = frag ++ rest := by
  induction s generalizing frag with
  | nil => cases frag <;> simp [startsWith]
  | cons c s ih =>
    cases frag with
    | nil => simp
    | cons d frag =>
      simp only [startsWith, Bool.and_eq_true, beq_iff_eq, ih, List.cons_append, List.cons.injEq,
        exists_and_left]

/-- The text ends with the fragment. -/
def endsWith (s frag : List Char) : Bool := startsWith s.reverse frag.reverse

/-- The fragment occurs in the text. -/
def isInfix (frag : List Char) : List Char → Bool
  | [] => frag.isEmpty
  | c :: s => startsWith (c :: s) frag || isInfix frag s

theorem isInfix_iff (frag s : List Char) :
    isInfix frag s = true ↔ ∃ pre post, s = pre ++ frag ++ post := by
  induction s with
  | nil =>
    simp only [isInfix, List.isEmpty_iff]
    constructor
    · rintro rfl; exact ⟨[], [], rfl⟩
    · rintro ⟨pre, post, h⟩
      have := (List.append_eq_nil_iff.mp h.symm).1
      exact (List.append_eq_nil_iff.mp this).2
  | cons c s ih =>
    simp only [isInfix, Bool.or_eq_true, startsWith_iff, ih]
    constructor
    · rintro (⟨rest, h⟩ | ⟨pre, post, h⟩)
      · exact ⟨[], rest, by simp [h]⟩
      · exact ⟨c :: pre, post, by simp [h]⟩
    · rintro ⟨pre, post, h⟩
      cases pre with
      | nil => exact Or.inl ⟨post, by simpa using h⟩
      | cons d pre =>
        simp only [List.cons_append, List.cons.injEq] at h
        exact Or.inr ⟨pre, post, h.2⟩

/-- The fragment occurs in the text. -/
def contains (s frag : String) : Bool := isInfix frag.toList s.toList

/-! ## 3. Cutting and joining -/

/-- Every occurrence of a non-empty fragment replaced, found from left to right;
    `skip` counts the characters of an occurrence that are still to be passed. -/
def replaceFrom (frag by_ : List Char) : Nat → List Char → List Char
  | _, [] => []
  | skip + 1, _ :: s => replaceFrom frag by_ skip s
  | 0, c :: s =>
    if startsWith (c :: s) frag then by_ ++ replaceFrom frag by_ (frag.length - 1) s
    else c :: replaceFrom frag by_ 0 s

/-- Every occurrence of a non-empty fragment replaced. -/
def replace (frag by_ s : List Char) : List Char := replaceFrom frag by_ 0 s

/-- The pieces between the separators; one piece more than there are separators. -/
def splitOn (sep : Char) : List Char → List (List Char)
  | [] => [[]]
  | c :: s =>
    if c == sep then [] :: splitOn sep s
    else match splitOn sep s with
      | [] => [[c]]
      | piece :: rest => (c :: piece) :: rest

/-- The texts with a separator between each two. -/
def joinChars (sep : List Char) : List (List Char) → List Char
  | [] => []
  | [x] => x
  | x :: y :: rest => x ++ sep ++ joinChars sep (y :: rest)

/-- The texts with a separator between each two. -/
def join (sep : String) (xs : List String) : String :=
  String.ofList (joinChars sep.toList (xs.map String.toList))

/-- Runs of white space become one blank. -/
def collapse : Bool → List Char → List Char
  | _, [] => []
  | inRun, c :: s =>
    if isSpace c then (if inRun then collapse true s else ' ' :: collapse true s)
    else c :: collapse false s

/-! ## 4. Lines -/

/-- A character that ends a line. -/
def isLineBreak (c : Char) : Bool :=
  let n := c.toNat
  (10 ≤ n && n ≤ 13) || (28 ≤ n && n ≤ 30) || n == 133 || n == 0x2028 || n == 0x2029

/-- The lines of a text, given the line read so far (latest character first);
    a carriage return and the line feed after it end one line together. -/
def linesFrom (cur : List Char) : List Char → List (List Char)
  | [] => if cur.isEmpty then [] else [cur.reverse]
  | '\r' :: '\n' :: s => cur.reverse :: linesFrom [] s
  | c :: s => if isLineBreak c then cur.reverse :: linesFrom [] s else linesFrom (c :: cur) s

/-- The lines of a text; a line break at the end adds no empty line. -/
def lines (s : List Char) : List (List Char) := linesFrom [] s

/-- Carriage returns, alone or before a line feed, read as line feeds. -/
def universalLines : List Char → List Char
  | [] => []
  | '\r' :: '\n' :: s => '\n' :: universalLines s
  | '\r' :: s => '\n' :: universalLines s
  | c :: s => c :: universalLines s

end Affordance.Text
