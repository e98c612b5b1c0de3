import Affordance.Script.Literal
import Affordance.Surface.Element
import Affordance.Text.Pattern

/-!
# Types in script text

  * `members`: the members of a type literal as props.
  * `namedMembers`: the members of a named interface or type.
-/

namespace Affordance.Script

open Affordance.Text
open Affordance.Text.Pattern

/-- A member of a type literal. -/
def memberPattern : Pattern :=
  space ++ opt (lit "readonly" ++ space1) ++ group "name" (runs isNameChar) ++
  opt (group "optional" (char '?')) ++ space ++ char ':' ++ space ++
  group "type" (runs fun _ => true) ++ atEnd

/-- The prop that a member declares. -/
def memberOf (piece : List Char) : Option ComponentProp :=
  (memberPattern.matchStart piece).map fun m =>
    { name := m.text "name", type := m.text? "type", required := !m.has "optional" }

/-- The inside of a type literal. -/
def insideType (s : List Char) : List Char :=
  match strip s with
  | '\x7b' :: rest =>
    match rest.reverse with
    | '\x7d' :: r => r.reverse
    | _ => rest
  | other => other

/-- The members of a type literal. -/
def members (s : List Char) : List ComponentProp :=
  (splitTop [';', ',', '\n'] (insideType s)).filterMap memberOf

/-- The declaration of an interface. -/
def interfaceHead (name : String) : Pattern :=
  wordEdge ++ lit "interface" ++ space1 ++ lit name ++ wordEdge ++ run (· ≠ '\x7b') ++
  ahead (char '\x7b')

/-- The declaration of a type. -/
def typeHead (name : String) : Pattern :=
  wordEdge ++ lit "type" ++ space1 ++ lit name ++ space ++
  opt (char '<' ++ run (· ≠ '>') ++ char '>') ++ space ++ char '=' ++ space ++ ahead (char '\x7b')

/-- The members of a named interface or type. -/
def namedMembers (src : Source) (name : String) : Except BracketFault (List ComponentProp) :=
  match (interfaceHead name).search src 0 <|> (typeHead name).search src 0 with
  | none => .ok []
  | some m => do
    let close ← partner src m.stop
    return members (src.slice m.stop (close + 1))

end Affordance.Script
