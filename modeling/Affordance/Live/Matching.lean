import Affordance.Live.Element
import Affordance.Surface.Vocabulary
import Affordance.Tool.Schema

/-!
# Locating elements in a running page

  * `matchScore`: how well a live element fits an element of the source.  Every agreement
    has a weight; the score is the sum, one at most.
  * `likeliest`: the first live element of the greatest score.
  * `locateAll`: every element gets ranked selectors: from its live element where the score
    is above the threshold, from the source alone otherwise.
  * Scores are sums of rounded numbers.  A `Rounding` says how: `binary` rounds to 53
    binary digits, `exact` not at all.
-/

namespace Affordance

open Affordance.Number
open Affordance.Text
open Affordance.Vocabulary (toolMarks testMarks)

/-! ## 1. Roundings and weights -/

/-- How numbers are rounded. -/
abbrev Rounding := Rat → Rat

/-- Numbers as they are. -/
def Rounding.exact : Rounding := fun q => q

/-- Numbers of 53 binary digits. -/
def Rounding.binary : Rounding := nearest

/-- The weights of agreements. -/
structure MatchWeights where
  id : Rat
  name : Rat
  testHook : Rat
  toolHook : Rat
  label : Rat
  partOfLabel : Rat
  role : Rat

/-- The weights in use. -/
def weights (round : Rounding) : MatchWeights where
  id := round (mkRat 5 10)
  name := round (mkRat 4 10)
  testHook := round (mkRat 6 10)
  toolHook := round (mkRat 8 10)
  label := round (mkRat 4 10)
  partOfLabel := round (mkRat 2 10)
  role := round (mkRat 2 10)

/-- The score above which a live element counts as the element of the source. -/
def acceptanceScore (round : Rounding) : Rat := round (mkRat 3 10)

/-! ## 2. Roles -/

/-- The roles of inputs by their types. -/
def rolesByInputType : List (String × String) := [
  ("submit", "button"), ("button", "button"), ("reset", "button"), ("image", "button"),
  ("text", "textbox"), ("email", "textbox"), ("password", "textbox"), ("search", "textbox"),
  ("url", "textbox"), ("tel", "textbox"), ("checkbox", "checkbox"), ("radio", "radio")]

/-- The roles of tags. -/
def rolesByTag : List (String × String) := [
  ("button", "button"), ("select", "combobox"), ("textarea", "textbox"), ("form", "form")]

/-- The role that a tag and an input type stand for; the tag itself where there is none. -/
def impliedRole (tag : String) (inputType : Option String) : String :=
  if tag = "input" then
    (rolesByInputType.lookup (toLower ((nonEmpty inputType).getD "text"))).getD tag
  else (rolesByTag.lookup tag).getD tag

/-- The role of an element. -/
def Element.role (e : Element) : String :=
  (nonEmpty (e.accessibility.bind (·.role))).getD (impliedRole e.tag.text e.inputType)

/-! ## 3. Selectors -/

/-- A text between double quotes of a selector. -/
def quoteValue (s : String) : String :=
  String.ofList (s.toList.flatMap fun c => if c = '\\' || c = '"' then ['\\', c] else [c])

/-- The selector of an attribute's value. -/
def attributeSelector (name value : String) : String :=
  "[" ++ name ++ "=\"" ++ quoteValue value ++ "\"]"

/-- The first of some attributes that has a value. -/
def firstMark (attributes : List (String × String)) (names : List String) :
    Option (String × String) :=
  names.findSome? fun n => (nonEmpty (attributes.lookup n)).map (n, ·)

/-- Two elements have the same value of one of some attributes. -/
def sharesMark (a b : List (String × String)) (names : List String) : Bool :=
  names.any fun n =>
    match nonEmpty (a.lookup n) with
    | some v => b.lookup n = some v
    | none => false

/-- Selectors by falling score; equal scores keep their order. -/
def ranked (ss : List Selector) : List Selector :=
  ss.mergeSort fun a b => !(a.score.lt b.score)

/-! ## 4. Scores -/

/-- Two texts are there and equal. -/
def sameText (a b : Option String) : Bool := (nonEmpty a).isSome && a = b

/-- A label as it is compared. -/
def comparedLabel (s : String) : String := toLower (trim s)

/-- The weight of two labels. -/
def labelWeight (w : MatchWeights) (a b : String) : Rat :=
  if a = "" || b = "" then 0
  else if a = b then w.label
  else if contains b a || contains a b then w.partOfLabel
  else 0

/-- The weights of what an element and a live element agree in. -/
def agreements (round : Rounding) (e : Element) (l : LiveElement) : List Rat :=
  let w := weights round
  let when (b : Bool) (q : Rat) : Rat := if b then q else 0
  let label := comparedLabel ((firstText [e.label, e.ariaLabel]).getD "")
  [ when (sameText e.id l.id) w.id,
    when (sameText e.name l.name) w.name,
    when (sharesMark e.attributes l.attributes testMarks) w.testHook,
    when (sharesMark e.attributes l.attributes toolMarks) w.toolHook,
    labelWeight w label (comparedLabel l.accessibleName),
    when (sameText l.role (some e.role)) w.role ]

/-- How well a live element fits an element. -/
def matchScore (round : Rounding) (e : Element) (l : LiveElement) : Rat :=
  let sum := (agreements round e l).foldl (fun s w => round (s + w)) 0
  if sum ≤ 1 then sum else 1

/-- The best of the live elements from a place on, given the best so far. -/
def bestFrom (round : Rounding) (e : Element) :
    Option Nat × Rat → Nat → List LiveElement → Option Nat × Rat
  | best, _, [] => best
  | best, i, l :: rest =>
    let s := matchScore round e l
    bestFrom round e (if best.2 < s then (some i, s) else best) (i + 1) rest

/-- The place of the first live element of the greatest score, and the score. -/
def likeliest (round : Rounding) (e : Element) (live : List LiveElement) : Option Nat × Rat :=
  bestFrom round e (none, 0) 0 live

/-! ## 5. Selectors of an element -/

/-- The confidence in a selector from the structure of the page: half the score of the
    match, two tenths at least. -/
def pathScore (round : Rounding) (score : Measure) : Measure :=
  let least := Measure.value (round (mkRat 2 10))
  let half := match score with
    | .value q => .value (round (q * mkRat 1 2))
    | m => m
  if least.lt half then half else least

/-- The selectors that a live element yields, which fits with a score. -/
def liveSelectors (round : Rounding) (l : LiveElement) (score : Measure) :
    List Selector :=
  let hook (strategy : Strategy) (names : List String) (s : Rat) : List Selector :=
    match firstMark l.attributes names with
    | some (n, v) => [⟨strategy, attributeSelector n v, .value s⟩]
    | none => []
  let name := trim l.accessibleName
  let named : List Selector :=
    if name = "" then []
    else
      ⟨.label, name, .value (round (mkRat 8 10))⟩ ::
      match nonEmpty l.role with
      | some r => [⟨.role, r ++ ":" ++ name, .value (round (mkRat 6 10))⟩]
      | none => []
  ranked (hook .toolHook toolMarks 1 ++ hook .testId testMarks (round (mkRat 9 10)) ++ named ++
    [⟨.css, l.selector, pathScore round score⟩])

/-- A character of a plain identifier. -/
def isIdentifierChar (c : Char) : Bool := isWord c || c == '-'

/-- The identifier can stand in a selector as it is; a line break at its end does not
    count. -/
def isPlainIdentifier (s : String) : Bool :=
  match s.toList with
  | c :: rest =>
    isLetterAscii c &&
      (if rest.getLast? = some '\n' then rest.dropLast else rest).all isIdentifierChar
  | [] => false

/-- The selectors that the source alone yields. -/
def sourceSelectors (round : Rounding) (e : Element) : List Selector :=
  let hook : List Selector :=
    match firstMark e.attributes testMarks with
    | some (n, v) => [⟨.testId, attributeSelector n v, .value (round (mkRat 9 10))⟩]
    | none => []
  let byId : List Selector :=
    match nonEmpty e.id with
    | some i =>
      [⟨.css, if isPlainIdentifier i then "#" ++ i else attributeSelector "id" i,
        .value (round (mkRat 5 10))⟩]
    | none => []
  let byName : List Selector :=
    match nonEmpty e.name with
    | some n => [⟨.css, e.tag.text ++ attributeSelector "name" n, .value (round (mkRat 4 10))⟩]
    | none => []
  let all := hook ++ byId ++ byName
  ranked (if all.isEmpty then [⟨.css, e.tag.text, .value (round (mkRat 1 10))⟩] else all)

/-! ## 6. Reconciling -/

/-- An element with its selectors and the live element it was found as. -/
structure Located where
  element : Element
  live : Option Nat
  score : Rat

/-- An element located among live elements. -/
def locate (round : Rounding) (live : List LiveElement) (e : Element) : Located :=
  let (place, score) := likeliest round e live
  let found := (place.bind fun i => live[i]?.map (i, ·)).filter
    fun _ => acceptanceScore round < score
  match found with
  | some (i, l) =>
    ⟨{ e with selectors := some (liveSelectors round l (.value score)) }, some i, score⟩
  | none => ⟨{ e with selectors := some (sourceSelectors round e) }, none, score⟩

/-- Elements located among live elements. -/
def locateAll (round : Rounding) (live : List LiveElement) (es : List Element) : List Located :=
  es.map (locate round live)

/-- What is told about located elements. -/
def matchedLine (located : List Located) (live : List LiveElement) : String :=
  "[skill.locators] matched " ++ toString (located.filter (·.live.isSome)).length ++ "/" ++
  toString located.length ++ " static elements against " ++ toString live.length ++
  " probe elements\n"

end Affordance
