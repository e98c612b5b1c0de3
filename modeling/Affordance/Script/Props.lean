import Affordance.Script.Entries
import Affordance.Script.TypeText

/-!
# Props of a component function

  * `propsOf`: the props that a component's first parameter declares, by its type and
    by its destructuring pattern.  A default makes a prop optional.
-/

namespace Affordance.Script

open Affordance.Text
open Affordance.Text.Pattern

/-! ## 1. The first parameter -/

/-- A plain parameter with its type. -/
def plainParameter : Pattern :=
  runs isNameChar ++ space ++ opt (char ':' ++ space ++ group "type" (runs fun _ => true)) ++ atEnd

/-- The type inside a wrapper of the library. -/
def wrappedType : Pattern :=
  opt (lit "React.") ++ opt (words ["PropsWithChildren", "FC", "ComponentProps"]) ++ space ++
  opt (char '<') ++ space ++ group "name" (runs isNameChar)

/-- The first parameter: its destructuring pattern and its type. -/
structure Parameter where
  pattern : Option (List Char)
  type : Option (List Char)

/-- The first parameter of a list; nothing if it is no parameter. -/
def firstParameter (params : List Char) : Except BracketFault (Option Parameter) := do
  let p := strip params
  if p.isEmpty then return none
  let src : Source := p.toArray
  let first := strip (src.slice 0 (skip src [','] 0))
  match first with
  | '\x7b' :: _ =>
    let close ← partner src 0
    let type := match strip (first.drop (close + 1)) with
      | ':' :: t => some (strip t)
      | _ => none
    return some ⟨some (first.take (close + 1)), type⟩
  | _ =>
    match plainParameter.matchStart first with
    | none => return none
    | some m => return some ⟨none, m.chars? "type"⟩

/-- The props that a type declares. -/
def typedProps (src : Source) (type : List Char) : Except BracketFault (List ComponentProp) :=
  if type.isEmpty then .ok []
  else if startsWith type ['\x7b'] then .ok (members type)
  else
    match wrappedType.matchStart type with
    | some m => namedMembers src (m.text "name")
    | none => .ok []

/-! ## 2. Defaults -/

/-- The last prop of a name changed. -/
def updateLast (name : String) (f : ComponentProp → ComponentProp) (ps : List ComponentProp) :
    List ComponentProp :=
  match ps.reverse.findIdx? (·.name = name) with
  | some i => ps.modify (ps.length - 1 - i) f
  | none => ps

/-- A key of the destructuring pattern among the props. -/
def addKey (ps : List ComponentProp) (key : String × Option String) : List ComponentProp :=
  if ps.any (·.name = key.1) then
    match key.2 with
    | some d => updateLast key.1 (fun p => { p with defaultValue := some d, required := false }) ps
    | none => ps
  else ps ++ [{ name := key.1, required := key.2.isNone, defaultValue := key.2 }]

/-- The props of a component function with the parameters. -/
def propsOf (params : List Char) (src : Source) : Except BracketFault (List ComponentProp) := do
  match ← firstParameter params with
  | none => return []
  | some p =>
    let typed ← typedProps src (p.type.getD [])
    return match p.pattern with
    | none => typed
    | some pattern => (defaults pattern).foldl addKey typed

end Affordance.Script
