import Affordance.Script.Entries
import Affordance.Script.State
import Affordance.Script.TypeText
import Affordance.Text.Case

/-!
# Scripts of single-file components

  * `stateOf`: the reactive variables of a script and the fields of its data function.
  * `propsOf`: the props that a script defines, by a type, by a list of names or by an
    object, and their defaults.
  * `nameOf`: the name that the script gives its component.
-/

namespace Affordance.SingleFile

open Affordance.Text
open Affordance.Text.Pattern
open Affordance.Script

/-! ## 1. State -/

/-- A reactive variable, up to its argument. -/
def reactiveVariable : Pattern :=
  declares ++ space1 ++ group "name" (runs isNameChar) ++ space ++
  opt (char ':' ++ runs fun c => !(c == '=' || c == '\n')) ++ char '=' ++ space ++
  group "function" (words ["ref", "shallowRef", "reactive", "computed"]) ++ space ++
  typeArguments ++ space ++ char '('

/-- The data function, up to its body. -/
def dataFunction : Pattern :=
  wordEdge ++ lit "data" ++ space ++ char '(' ++ space ++ char ')' ++ space ++
  opt (char ':' ++ runs (· ≠ '\x7b')) ++ char '\x7b'

/-- The data function as an arrow, up to its object. -/
def dataArrow : Pattern :=
  wordEdge ++ lit "data" ++ space ++ char ':' ++ space ++ char '(' ++ space ++ char ')' ++ space ++
  lit "=>" ++ space ++ char '(' ++ space ++ ahead (char '\x7b')

/-- A returned object. -/
def returnObject : Pattern := wordEdge ++ lit "return" ++ space ++ ahead (char '\x7b')

/-- How a function of the library keeps a value. -/
def kindOf : String → StateKind
  | "ref" => .ref
  | "shallowRef" => .ref
  | "reactive" => .state
  | _ => .other

/-- The state variable of a reactive variable; a computed one has no initial value. -/
def reactiveState (src : Source) (m : Match) : StateVariable :=
  let function := m.text "function"
  let init :=
    if function = "computed" then none
    else nonEmpty (some (String.ofList (strip (src.slice m.stop (skip src [',', ')'] m.stop)))))
  { name := m.text "name", initialValue := init, kind := kindOf function
    type := if function = "reactive" then "object" else initialType init }

/-- The object that begins at a position. -/
def objectAt (src : Source) (i : Nat) : Except BracketFault (List Char) := do
  return src.slice i ((← partner src i) + 1)

/-- The object that the data function returns. -/
def dataObject (src : Source) : Except BracketFault (List Char) :=
  match dataFunction.search src 0 with
  | some m => do
    let close ← partner src (m.stop - 1)
    match returnObject.searchIn src (m.stop - 1) close with
    | some r => objectAt src r.stop
    | none => return []
  | none =>
    match dataArrow.search src 0 with
    | some m => objectAt src m.stop
    | none => .ok []

/-- The state variables of a script. -/
def stateOf (src : Source) : Except BracketFault (List StateVariable) := do
  let reactive := (reactiveVariable.findAll src).map (reactiveState src)
  let data := (entries (← dataObject src)).map fun (key, value) =>
    { name := key, initialValue := value, type := initialType value, kind := .state }
  return reactive ++ data

/-! ## 2. Props -/

/-- A quoted prop name. -/
def quotedName : Pattern :=
  group "quote" (one fun c => c == '\'' || c == '"') ++
  group "name" (runs fun c => isNameChar c || c == '-') ++ again "quote"

/-- A text without white space around it, if anything is left. -/
def trimmed (s : Option String) : Option String := nonEmpty (s.map trim)

/-- The prop that an entry of a props object declares. -/
def propOf (entry : String × Option String) : ComponentProp :=
  let v := trim (entry.2.getD "")
  if startsWith v.toList ['\x7b'] then
    let opts := entries v.toList
    let option (key : String) := (lastEntry opts key).join
    { name := entry.1
      type := (trimmed (option "type")).map toLower
      required := trimmed (option "required") = some "true"
      defaultValue := (option "default").map trim }
  else { name := entry.1, type := nonEmpty (some (toLower v)), required := false }

/-- The props that a list of names or an object declares. -/
def listedProps (s : List Char) : List ComponentProp :=
  let s := strip s
  if startsWith s ['['] then
    (quotedName.findAll s.toArray).map fun m => { name := m.text "name", required := false }
  else (entries s).map propOf

/-- The macro that defines props. -/
def defineProps : Pattern :=
  wordEdge ++ lit "defineProps" ++ space ++ opt (group "generic" (char '<'))

/-- The props option. -/
def propsOption : Pattern :=
  notAfter (fun c => isNameChar c || c == '.') ++ lit "props" ++ space ++ char ':' ++ space ++
  ahead (one fun c => c == '[' || c == '\x7b')

/-- The macro that gives props their defaults. -/
def withDefaults : Pattern := wordEdge ++ lit "withDefaults" ++ space ++ char '('

/-- The props that the macro defines by a type argument from a position on. -/
def genericProps (src : Source) (i : Nat) : Except BracketFault (List ComponentProp) :=
  let close := (src.findFragment ['>', '(', ')'] i).getD src.size
  let type := strip (src.slice i close)
  if startsWith type ['\x7b'] then .ok (members type)
  else namedMembers src (String.ofList type)

/-- The props that the macro defines by its argument, looked for from a position on.
    Without an argument list the last character of the script counts as its opening
    bracket and the arguments are taken from the beginning. -/
def argumentProps (src : Source) (i : Nat) : Except BracketFault (List ComponentProp) :=
  match src.findChar '(' i with
  | some open_ => do
    let close ← partner src open_
    return listedProps (src.slice (open_ + 1) close)
  | none => do
    let close ← partnerFrom src src.back? 0
    return listedProps (src.slice 0 close)

/-- The entries of the defaults that the macro gives. -/
def defaultEntries (src : Source) : Except BracketFault (List (String × Option String)) :=
  match withDefaults.search src 0 with
  | none => .ok []
  | some m => do
    let close ← partner src (m.stop - 1)
    let inside : Source := src.extract m.stop close
    return entries (inside.slice (skip inside [','] 0 + 1) inside.size)

/-- A prop with its default. -/
def withDefault (ds : List (String × Option String)) (p : ComponentProp) : ComponentProp :=
  match lastEntry ds p.name with
  | some d => { p with defaultValue := d, required := false }
  | none => p

/-- The props that a script defines. -/
def propsOf (src : Source) : Except BracketFault (List ComponentProp) :=
  match defineProps.search src 0 with
  | some m => do
    let props ← if m.has "generic" then genericProps src m.stop else argumentProps src (m.stop - 1)
    return props.map (withDefault (← defaultEntries src))
  | none =>
    match propsOption.search src 0 with
    | some m => do return listedProps (← objectAt src m.stop)
    | none => .ok []

/-! ## 3. The name -/

/-- The options of a component, up to their object. -/
def optionsObject : Pattern :=
  alt (lit "export" ++ space1 ++ lit "default")
    (alt (lit "defineComponent" ++ space ++ char '(') (lit "defineOptions" ++ space ++ char '(')) ++
  space ++ ahead (char '\x7b')

/-- The name among the entries of an object: the first that is a plain text. -/
def nameAmong (es : List (String × Option String)) : Option String :=
  es.findSome? fun (key, value) =>
    if key = "name" then (nonEmpty value).bind fun v => nonEmpty (literalText v) else none

/-- The name that the first of the objects gives. -/
def nameFrom (src : Source) : List Match → Except BracketFault (Option String)
  | [] => .ok none
  | m :: rest => do
    match nameAmong (entries (← objectAt src m.stop)) with
    | some n => return some n
    | none => nameFrom src rest

/-- The name that the script gives its component. -/
def nameOf (src : Source) : Except BracketFault (Option String) :=
  nameFrom src (optionsObject.findAll src)

end Affordance.SingleFile
