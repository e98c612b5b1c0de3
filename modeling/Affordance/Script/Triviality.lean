import Affordance.Script.Literal
import Affordance.Text.Pattern

/-!
# Statements without an effect of their own

  * `unwrap`: a function body without its braces, the parentheses around it and the
    semicolons at its end.
  * `isTrivial`: the body only stores a value, as one call of a setter or one
    assignment from the event.
  * `lastMember`: the last name of a plain member path.
-/

namespace Affordance.Script

open Affordance.Text
open Affordance.Text.Pattern

/-! ## 1. Unwrapping -/

/-- The text without its first and last characters. -/
def inner (s : List Char) : List Char := (s.drop 1).dropLast

/-- The text without the braces around it. -/
def unbrace : Nat → List Char → List Char
  | 0, s => s
  | n + 1, s =>
    if startsWith s ['{'] && endsWith s ['}'] then unbrace n (strip (inner s)) else s

/-- The text without the pairs of parentheses around it. -/
def unparen : Nat → List Char → Except BracketFault (List Char)
  | 0, s => .ok s
  | n + 1, s => do
    if startsWith s ['('] && endsWith s [')'] then
      let close ← partner s.toArray 0
      if close + 1 = s.length then unparen n (strip (inner s)) else return s
    else return s

/-- A body without braces, the parentheses around it and semicolons at its end. -/
def unwrap (body : String) : Except BracketFault (List Char) := do
  let s := strip body.toList
  let s ← unparen s.length (unbrace s.length s)
  return strip (stripEndBy (· == ';') s)

/-! ## 2. Trivial bodies -/

/-- One call of a setter. -/
def setterCall : Pattern :=
  opt (lit "this.") ++ lit "set" ++ one isUpperAscii ++ run isNameChar ++ space ++ char '(' ++
  run (fun _ => true) ++ char ')' ++ atEnd

/-- A character of the left side of an assignment. -/
def isTargetChar (c : Char) : Bool :=
  isNameChar c || c == '.' || c == '[' || c == ']' || c == '\'' || c == '"'

/-- One assignment from the event. -/
def eventAssignment : Pattern :=
  runs isTargetChar ++ space ++ char '=' ++ space ++
  words ["$event", "e", "ev", "evt", "event"] ++
  opt (char '.' ++ words ["target", "currentTarget"]) ++
  opt (char '.' ++ words ["value", "checked"]) ++ atEnd

/-- The unwrapped body only stores a value. -/
def isTrivialStatement (s : List Char) : Bool :=
  let src : Source := s.toArray
  if s.isEmpty then true
  else if skip src [';'] 0 < src.size then false
  else
    let open_ := (src.findChar '(' 0).getD 0
    ((setterCall.matchStart s).isSome && skip src [')'] (open_ + 1) + 1 == src.size) ||
    (eventAssignment.matchStart s).isSome

/-- The body only stores a value. -/
def isTrivial (body : String) : Except BracketFault Bool := do
  return isTrivialStatement (← unwrap body)

/-! ## 3. Member paths -/

/-- A name. -/
def identifier : Pattern := one isNameStart ++ run isNameChar

/-- A member path of plain names. -/
def memberPath : Pattern :=
  space ++ many (identifier ++ space ++ opt (char '?') ++ char '.' ++ space) ++
  group "tail" identifier ++ space

/-- The last name of a plain member path. -/
def lastMember (expr : String) : Option String :=
  (memberPath.fullMatch expr.toList).map (·.text "tail")

end Affordance.Script
