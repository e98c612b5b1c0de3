import Affordance.Text.Case
import Affordance.Text.Source

/-!
# Patterns

  * A `Pattern` describes texts: characters of a class, sequence, ordered
    choice, repetition, named groups and looks to either side.
  * `Pattern.run` tries the pattern at a position and hands every way to match,
    in order of preference, to a continuation: the first that the continuation
    accepts is the match.  The definition is structural on the pattern; a
    repetition counts down the characters that are left.
  * `matchAt`, `search`, `findAll` and `fullMatch` are what readers call.
-/

namespace Affordance.Text

/-- A description of texts. -/
inductive Pattern where
  /-- Nothing. -/
  | empty
  /-- One character of the class. -/
  | one (p : Char → Bool)
  /-- The one pattern, then the other. -/
  | seq (a b : Pattern)
  /-- The first pattern if that leads to a match, else the second. -/
  | alt (a b : Pattern)
  /-- As many characters of the class as lead to a match. -/
  | run (p : Char → Bool)
  /-- As few characters of the class as lead to a match. -/
  | fewest (p : Char → Bool)
  /-- The pattern as often as it leads to a match. -/
  | many (a : Pattern)
  /-- The pattern, remembered under a name. -/
  | group (name : String) (a : Pattern)
  /-- The text that a group holds. -/
  | again (name : String)
  /-- The pattern follows here; nothing is passed. -/
  | ahead (a : Pattern)
  /-- The pattern does not follow here; nothing is passed. -/
  | notAhead (a : Pattern)
  /-- A character of the class stands before this position. -/
  | after (p : Char → Bool)
  /-- No character of the class stands before this position. -/
  | notAfter (p : Char → Bool)
  /-- A word begins or ends here. -/
  | wordEdge
  /-- A line begins here. -/
  | lineStart
  /-- The text ends here, or has only a last line feed left. -/
  | atEnd

namespace Pattern

instance : Append Pattern := ⟨seq⟩

instance : OrElse Pattern := ⟨fun a b => alt a (b ())⟩

/-- One character. -/
def char (c : Char) : Pattern := one (· == c)

/-- The characters of a text, one after the other. -/
def chars : List Char → Pattern
  | [] => empty
  | [c] => char c
  | c :: rest => char c ++ chars rest

/-- A text as it stands. -/
def lit (s : String) : Pattern := chars s.toList

/-- A text with letter case ignored. -/
def litAnyCase (s : String) : Pattern :=
  (s.toList.map fun c => one (sameLetter c)).foldr seq empty

/-- The first of the texts that leads to a match. -/
def words : List String → Pattern
  | [] => one (fun _ => false)
  | [w] => lit w
  | w :: rest => alt (lit w) (words rest)

/-- The pattern or nothing, the pattern if that leads to a match. -/
def opt (a : Pattern) : Pattern := alt a empty

/-- At least one character of the class, as many as possible. -/
def runs (p : Char → Bool) : Pattern := one p ++ run p

/-- White space, or none. -/
def space : Pattern := run isSpace

/-- White space. -/
def space1 : Pattern := runs isSpace

/-! ## 1. Matching -/

/-- The span a group holds, latest first. -/
abbrev Groups := List (String × Nat × Nat)

/-- A position reached together with the groups filled on the way. -/
abbrev Reached := Nat × Groups

/-- What is done after a pattern has matched. -/
abbrev Cont := Nat → Groups → Option Reached

/-- Tries the positions from `i + n` down to `i`. -/
def tryDown (k : Nat → Option Reached) (i : Nat) : Nat → Option Reached
  | 0 => k i
  | n + 1 =>
    match k (i + (n + 1)) with
    | some r => some r
    | none => tryDown k i n

/-- Tries the positions from `i` on, up to `n` further ones. -/
def tryUp (k : Nat → Option Reached) : Nat → Nat → Option Reached
  | 0, i => k i
  | n + 1, i =>
    match k i with
    | some r => some r
    | none => tryUp k n (i + 1)

/-- Repeats a step as often as it leads to a match; a step that passes nothing
    is not repeated. -/
def repeatMost (step : Nat → Groups → Cont → Option Reached) (k : Cont) :
    Nat → Nat → Groups → Option Reached
  | 0, i, g => k i g
  | n + 1, i, g =>
    match step i g (fun j g' => if i < j then repeatMost step k n j g' else none) with
    | some r => some r
    | none => k i g

/-- A word begins or ends at the position. -/
def isWordEdge (src : Source) (i : Nat) : Bool :=
  let before := match i with
    | 0 => false
    | k + 1 => (src[k]?.map isWord).getD false
  let after := (src[i]?.map isWord).getD false
  before != after

/-- Tries the pattern at a position and hands on every way to match in order. -/
def attempt (src : Source) : Pattern → Nat → Groups → Cont → Option Reached
  | empty, i, g, k => k i g
  | one p, i, g, k =>
    match src[i]? with
    | some c => if p c then k (i + 1) g else none
    | none => none
  | seq a b, i, g, k => attempt src a i g (fun j g' => attempt src b j g' k)
  | alt a b, i, g, k =>
    match attempt src a i g k with
    | some r => some r
    | none => attempt src b i g k
  | run p, i, g, k => tryDown (fun j => k j g) i (src.passWhile p i - i)
  | fewest p, i, g, k => tryUp (fun j => k j g) (src.passWhile p i - i) i
  | many a, i, g, k => repeatMost (attempt src a) k (src.size - i) i g
  | group name a, i, g, k => attempt src a i g (fun j g' => k j ((name, i, j) :: g'))
  | again name, i, g, k =>
    match g.lookup name with
    | some (a, b) => if src.at_ i (src.slice a b) then k (i + (b - a)) g else none
    | none => none
  | ahead a, i, g, k =>
    match attempt src a i g (fun j g' => some (j, g')) with
    | some (_, g') => k i g'
    | none => none
  | notAhead a, i, g, k =>
    match attempt src a i g (fun j g' => some (j, g')) with
    | some _ => none
    | none => k i g
  | after p, i, g, k =>
    match i with
    | 0 => none
    | j + 1 => if (src[j]?.map p).getD false then k i g else none
  | notAfter p, i, g, k =>
    match i with
    | 0 => k i g
    | j + 1 => if (src[j]?.map p).getD false then none else k i g
  | wordEdge, i, g, k => if isWordEdge src i then k i g else none
  | lineStart, i, g, k =>
    match i with
    | 0 => k i g
    | j + 1 => if src[j]? == some '\n' then k i g else none
  | atEnd, i, g, k =>
    if i == src.size || (i + 1 == src.size && src[i]? == some '\n') then k i g else none

/-! ## 2. Matches -/

/-- A match: where it begins and ends and what its groups hold. -/
structure Match where
  source : Source
  start : Nat
  stop : Nat
  groups : Groups

namespace Match

/-- The characters a group holds. -/
def chars? (m : Match) (name : String) : Option (List Char) :=
  (m.groups.lookup name).map fun (a, b) => m.source.slice a b

/-- The text a group holds. -/
def text? (m : Match) (name : String) : Option String := (m.chars? name).map String.ofList

/-- The text a group holds, empty if the group took no part. -/
def text (m : Match) (name : String) : String := (m.text? name).getD ""

/-- The group took part in the match and holds some character. -/
def has (m : Match) (name : String) : Bool :=
  match m.groups.lookup name with
  | some (a, b) => a < b
  | none => false

/-- The whole matched text. -/
def whole (m : Match) : String := m.source.text m.start m.stop

end Match

/-- The pattern matched at the position. -/
def matchAt (p : Pattern) (src : Source) (i : Nat) : Option Match :=
  (attempt src p i [] (fun j g => some (j, g))).map fun (j, g) => ⟨src, i, j, g⟩

/-- The pattern matched from the beginning of a text. -/
def matchStart (p : Pattern) (s : List Char) : Option Match := p.matchAt s.toArray 0

/-- The whole text matches. -/
def fullMatch (p : Pattern) (s : List Char) : Option Match :=
  let src : Source := s.toArray
  (attempt src p 0 [] (fun j g => if j == src.size then some (j, g) else none)).map
    fun (j, g) => ⟨src, 0, j, g⟩

/-- The first match that begins at one of the next `n` positions. -/
def searchWithin (p : Pattern) (src : Source) : Nat → Nat → Option Match
  | 0, _ => none
  | n + 1, i =>
    match p.matchAt src i with
    | some m => some m
    | none => searchWithin p src n (i + 1)

/-- The first match that begins at the position or later. -/
def search (p : Pattern) (src : Source) (i : Nat) : Option Match :=
  searchWithin p src (src.size + 1 - i) i

/-- The first match within the span, which is read as if the text ended there. -/
def searchIn (p : Pattern) (src : Source) (from_ to_ : Nat) : Option Match :=
  p.search (src.extract 0 to_) from_

/-- All matches from the position on, each beginning where the last one ended or
    later; an empty match is passed by one character. -/
def findFrom (p : Pattern) (src : Source) : Nat → Nat → List Match
  | 0, _ => []
  | n + 1, i =>
    match p.search src i with
    | none => []
    | some m => m :: findFrom p src n (if m.start < m.stop then m.stop else m.stop + 1)

/-- All matches, from left to right. -/
def findAll (p : Pattern) (src : Source) : List Match := findFrom p src (src.size + 1) 0

/-- The source with every match replaced, given the matches in order. -/
def substitute (src : Source) (by_ : List Char) : Nat → List Match → List Char
  | i, [] => src.slice i src.size
  | i, m :: rest => src.slice i m.start ++ by_ ++ substitute src by_ m.stop rest

/-- The text with every match replaced. -/
def replaceAll (p : Pattern) (by_ s : List Char) : List Char :=
  substitute s.toArray by_ 0 (p.findAll s.toArray)

end Pattern

end Affordance.Text
