import Affordance.Text.Basic

/-!
# Glob patterns

  * A star stands for any text, a question mark for any character, a bracketed set for
    one of its characters; an exclamation mark at the beginning of a set turns it
    around.
  * A bracket that is not closed stands for itself.  A range whose ends are in the wrong
    order is empty and takes its ends with it; an empty set matches nothing.
  * `globMatches`: a pattern matches a whole text.
-/

namespace Affordance.Text

/-! ## 1. Sets -/

/-- Characters from one to another. -/
structure CharRange where
  first : Char
  last : Char
  deriving Repr, DecidableEq

/-- A set of characters. -/
structure CharSet where
  inverted : Bool
  ranges : List CharRange
  deriving Repr, DecidableEq

/-- The character belongs to the set. -/
def CharSet.has (s : CharSet) (c : Char) : Bool :=
  s.inverted != s.ranges.any fun r => r.first ≤ c && c ≤ r.last

/-- The range of a single character. -/
def CharRange.single (c : Char) : CharRange := ⟨c, c⟩

/-- The pieces of a set's text between the hyphens that make ranges, given the piece
    read so far (latest character first) and how many characters are still to be passed
    before a hyphen can make a range. -/
def setPieces : Nat → List Char → List Char → List (List Char)
  | _, cur, [] => if cur.isEmpty then [] else [cur.reverse]
  | wait, cur, c :: s =>
    if wait = 0 && c == '-' then
      if s.isEmpty then [('-' :: cur).reverse] else cur.reverse :: setPieces 2 [] s
    else setPieces (wait - 1) (c :: cur) s

/-- A set's text as it is finally read: characters, and ranges between two. -/
inductive SetItem where
  | one (c : Char)
  | range (first last : Char)
  deriving Repr, DecidableEq

/-- The pieces joined, ranges in the wrong order dropped with their ends; the last pair
    of pieces is joined first. -/
def joinPieces : List (List Char) → List SetItem
  | [] => []
  | piece :: rest =>
    match joinPieces rest, piece.getLast? with
    | .one hi :: more, some lo =>
      if hi < lo then piece.dropLast.map .one ++ more
      else piece.dropLast.map .one ++ .range lo hi :: more
    | items, _ => piece.map .one ++ items

/-- The range of an item. -/
def SetItem.toRange : SetItem → CharRange
  | one c => .single c
  | range a b => ⟨a, b⟩

/-- The set that the text between two brackets writes. -/
def setOf (s : List Char) : CharSet :=
  let wait := if s.head? = some '!' then 2 else 1
  match joinPieces (setPieces wait [] s) with
  | .one '!' :: items => ⟨true, items.map SetItem.toRange⟩
  | .range '!' c :: items => ⟨true, .single '-' :: .single c :: items.map SetItem.toRange⟩
  | items => ⟨false, items.map SetItem.toRange⟩

/-! ## 2. Patterns -/

/-- A part of a glob pattern. -/
inductive GlobPart where
  | star
  | any
  | set (s : CharSet)
  | char (c : Char)
  deriving Repr, DecidableEq

/-- The text of a set up to its closing bracket, and what follows; a closing bracket at
    the beginning belongs to the set. -/
def cutSet (s : List Char) : Option (List Char × List Char) :=
  let (bang, s) := match s with
    | '!' :: r => (['!'], r)
    | r => ([], r)
  let (first, s) := match s with
    | ']' :: r => ([']'], r)
    | r => ([], r)
  let inside := s.takeWhile (· ≠ ']')
  match s.drop inside.length with
  | _ :: rest => some (bang ++ first ++ inside, rest)
  | [] => none

/-- The parts of a pattern; `n` bounds the characters left. -/
def globParts : Nat → List Char → List GlobPart
  | 0, _ => []
  | _, [] => []
  | n + 1, c :: s =>
    if c == '*' then .star :: globParts n s
    else if c == '?' then .any :: globParts n s
    else if c == '[' then
      match cutSet s with
      | some (inside, rest) => .set (setOf inside) :: globParts n rest
      | none => .char '[' :: globParts n s
    else .char c :: globParts n s

/-! ## 3. Matching -/

/-- The test holds of the text or of a text that is left when characters are taken off
    its beginning. -/
def anyEnd (test : List Char → Bool) : List Char → Bool
  | [] => test []
  | c :: s => test (c :: s) || anyEnd test s

/-- The part matches the character. -/
def GlobPart.takes : GlobPart → Char → Bool
  | star, _ => false
  | any, _ => true
  | set s, c => s.has c
  | char d, c => c == d

/-- The parts match the whole text. -/
def partsMatch : List GlobPart → List Char → Bool
  | [], s => s.isEmpty
  | .star :: ps, s => anyEnd (partsMatch ps) s
  | p :: ps, s =>
    match s with
    | [] => false
    | c :: s => p.takes c && partsMatch ps s

/-- The pattern matches the whole text. -/
def globMatches (pattern text : String) : Bool :=
  partsMatch (globParts pattern.length pattern.toList) text.toList

end Affordance.Text
