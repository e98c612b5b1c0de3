import Affordance.Number.Whole
import Affordance.Text.Basic
import Affordance.Text.EntityTable

/-!
# Character references

  * `unescape`: every reference in a text replaced by its characters, as labels
    and attribute values are read.  A numeric reference may lack its semicolon; a
    name may lack it where the standard allows, and then the longest such name
    counts, whatever follows.
  * `longReference?`: the first numeric reference of a text that has too many decimal
    digits.  Who unescapes a text asks for it first.
  * `markupNumber` and `markupName`: the same references where they stand in
    markup text; a number below 256 is a byte of the Western code page there, and
    an unknown name loses its semicolon.
-/

namespace Affordance.Text

/-! ## 1. Code points -/

/-- The replacement character. -/
def replacementChar : Char := Char.ofNat 0xfffd

/-- The characters of the Western code page from 128 to 159; the code points that it
    leaves open stay as they are. -/
def westernPage : List Nat := [
  0x20ac, 0x81, 0x201a, 0x192, 0x201e, 0x2026, 0x2020, 0x2021, 0x2c6, 0x2030, 0x160, 0x2039, 0x152,
  0x8d, 0x17d, 0x8f, 0x90, 0x2018, 0x2019, 0x201c, 0x201d, 0x2022, 0x2013, 0x2014, 0x2dc, 0x2122,
  0x161, 0x203a, 0x153, 0x9d, 0x17e, 0x178]

/-- The character of a code point, the replacement character for what is none. -/
def charOfCode (n : Nat) : Char :=
  if (0xd800 ≤ n && n ≤ 0xdfff) || 0x10ffff < n then replacementChar else Char.ofNat n

/-- Code points that a numeric reference may not name. -/
def isForbiddenCode (n : Nat) : Bool :=
  (1 ≤ n && n ≤ 8) || n == 11 || (14 ≤ n && n ≤ 31) || (127 ≤ n && n ≤ 159) ||
  (0xfdd0 ≤ n && n ≤ 0xfdef) || n % 0x10000 == 0xfffe || n % 0x10000 == 0xffff

/-- The characters of a numeric reference. -/
def charsOfNumber (n : Nat) : List Char :=
  if n == 0 then [replacementChar]
  else if n == 13 then ['\r']
  else if 128 ≤ n && n ≤ 159 then [Char.ofNat (westernPage.getD (n - 128) n)]
  else if (0xd800 ≤ n && n ≤ 0xdfff) || 0x10ffff < n then [replacementChar]
  else if isForbiddenCode n then []
  else [Char.ofNat n]

/-! ## 2. Names -/

/-- The characters of a reference name that ends with a semicolon. -/
def entityChars (name : List Char) : Option (List Char) :=
  (entityTable.lookup (String.ofList name)).map (·.map Char.ofNat)

/-- The characters of a reference name that counts without a semicolon. -/
def bareEntityChars (name : List Char) : Option (List Char) :=
  if bareEntities.contains (String.ofList name) then entityChars name else none

/-- The longest beginning of the name, at most `n` and at least two characters long,
    that is a reference without a semicolon. -/
def longestBare (name : List Char) : Nat → Option (List Char × List Char)
  | 0 => none
  | 1 => none
  | n + 2 =>
    match bareEntityChars (name.take (n + 2)) with
    | some cs => some (cs, name.drop (n + 2))
    | none => longestBare name (n + 1)

/-- The characters that a name stands for, given with its semicolon if it has one. -/
def charsOfName (name : List Char) : List Char :=
  let known := match name.reverse with
    | ';' :: r => entityChars r.reverse
    | _ => bareEntityChars name
  match known with
  | some cs => cs
  | none =>
    match longestBare name (name.length - 1) with
    | some (cs, rest) => cs ++ rest
    | none => '&' :: name

/-! ## 3. References in labels and attribute values -/

/-- The value of a digit in the base, which is at most sixteen. -/
def digitValue (base : Nat) (c : Char) : Option Nat :=
  let v := if isDigitAscii c then some (c.toNat - 48)
    else if 97 ≤ c.toNat && c.toNat ≤ 102 then some (c.toNat - 87)
    else if 65 ≤ c.toNat && c.toNat ≤ 70 then some (c.toNat - 55)
    else none
  v.filter (· < base)

/-- The number that digits write. -/
def numberOfDigits (base : Nat) (ds : List Char) : Nat :=
  ds.foldl (fun n d => n * base + (digitValue base d).getD 0) 0

/-- A semicolon, if one is there, and the rest. -/
def takeSemicolon : List Char → List Char × List Char
  | ';' :: s => ([';'], s)
  | s => ([], s)

/-- The characters of a reference name, without its semicolon. -/
def isEntityNameChar (c : Char) : Bool :=
  !(c == '\t' || c == '\n' || c == '\x0c' || c == ' ' || c == '<' || c == '&' || c == '#' || c == ';')

/-- At most `n` characters of the class from the beginning. -/
def takeRun (p : Char → Bool) : Nat → List Char → List Char
  | 0, _ => []
  | _, [] => []
  | n + 1, c :: s => if p c then c :: takeRun p n s else []

/-- Digits of the base as a numeric reference: its characters and how many
    characters of the text it takes. -/
def readNumber (base : Nat) (s : List Char) : Option (List Char × Nat) :=
  let ds := s.takeWhile fun c => (digitValue base c).isSome
  if ds.isEmpty then none
  else some (charsOfNumber (numberOfDigits base ds),
    ds.length + (takeSemicolon (s.drop ds.length)).1.length)

/-- The reference after an ampersand: its characters and how many characters of the
    text it takes. -/
def readReference (s : List Char) : Option (List Char × Nat) :=
  match s with
  | '#' :: 'x' :: r => (readNumber 16 r).map fun (cs, n) => (cs, n + 2)
  | '#' :: 'X' :: r => (readNumber 16 r).map fun (cs, n) => (cs, n + 2)
  | '#' :: r => (readNumber 10 r).map fun (cs, n) => (cs, n + 1)
  | _ =>
    let name := takeRun isEntityNameChar 32 s
    if name.isEmpty then none
    else
      let semi := (takeSemicolon (s.drop name.length)).1
      some (charsOfName (name ++ semi), name.length + semi.length)

/-- The text with its references replaced; `skip` counts characters of a reference
    that are still to be passed. -/
def unescapeFrom : Nat → List Char → List Char
  | _, [] => []
  | skip + 1, _ :: s => unescapeFrom skip s
  | 0, c :: s =>
    if c == '&' then
      match readReference s with
      | some (cs, n) => cs ++ unescapeFrom n s
      | none => c :: unescapeFrom 0 s
    else c :: unescapeFrom 0 s

/-- The text with its references replaced. -/
def unescape (s : List Char) : List Char := unescapeFrom 0 s

/-- A text without ampersands holds no reference. -/
theorem unescape_eq_self {s : List Char} (h : '&' ∉ s) : unescape s = s := by
  unfold unescape
  induction s with
  | nil => rfl
  | cons c s ih =>
    have hc : (c == '&') = false := by
      rw [beq_eq_false_iff_ne]; intro e; exact h (by simp [e])
    simp only [unescapeFrom, hc]
    rw [ih (fun m => h (List.mem_cons_of_mem c m))]
    rfl

/-- The first numeric reference with too many decimal digits. -/
def longReference? : List Char → Option Number.LongNumber
  | [] => none
  | '&' :: '#' :: s =>
    Number.longNumber? (s.takeWhile isDigitAscii).length <|> longReference? s
  | _ :: s => longReference? s

/-- A text without ampersands holds no such reference. -/
theorem longReference?_eq_none {s : List Char} (h : '&' ∉ s) : longReference? s = none := by
  fun_induction longReference? s with
  | case1 => rfl
  | case2 => simp at h
  | case3 _ _ _ ih => exact ih fun m => h (List.mem_cons_of_mem _ m)

/-! ## 4. References in markup text -/

/-- The character of a numeric reference in markup text. -/
def markupNumber (n : Nat) : Char :=
  if n = 0 then replacementChar
  else if 128 ≤ n && n ≤ 159 then Char.ofNat (westernPage.getD (n - 128) n) else charOfCode n

/-- The characters of a named reference in markup text. -/
def markupName (name : List Char) : List Char := (entityChars name).getD ('&' :: name)

end Affordance.Text
