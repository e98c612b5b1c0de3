import Affordance.Script.Entries
import Affordance.Script.Request
import Affordance.Surface.Element

/-!
# State of a component function

  * `stateOf`: the state variables that a component's hooks or its class declare, in
    the order of the text, and the form library that it uses.
-/

namespace Affordance.Script

open Affordance.Text
open Affordance.Text.Pattern

/-! ## 1. Hooks -/

/-- A declaration word. -/
def declares : Pattern := words ["const", "let", "var"]

/-- Type arguments. -/
def typeArguments : Pattern :=
  opt (char '<' ++ fewest (fun c => !(c == '(' || c == ')')) ++ char '>')

/-- A pair of a value and its setter. -/
def statePair : Pattern :=
  declares ++ space ++ char '[' ++ space ++ group "name" (runs isNameChar) ++ space ++
  opt (char ',' ++ space ++ group "setter" (runs isNameChar) ++ space) ++ char ']' ++ space ++
  char '=' ++ space ++ opt (lit "React.")

/-- A state hook, up to its arguments. -/
def stateHook : Pattern :=
  statePair ++ lit "useState" ++ space ++ typeArguments ++ space ++ char '('

/-- A reference hook, up to its arguments. -/
def refHook : Pattern :=
  declares ++ space1 ++ group "name" (runs isNameChar) ++ space ++ char '=' ++ space ++
  opt (lit "React.") ++ lit "useRef" ++ space ++ typeArguments ++ space ++ char '('

/-- A reducer hook, up to its arguments. -/
def reducerHook : Pattern := statePair ++ lit "useReducer" ++ space ++ char '('

/-- Form libraries by their hooks. -/
def formHooks : List (String × String) := [("useForm", "react-hook-form"), ("useFormik", "formik")]

/-- A form library's hook, up to its arguments. -/
def formHook : Pattern :=
  declares ++ space1 ++
  group "target" (alt (char '\x7b' ++ run (· ≠ '\x7d') ++ char '\x7d') (runs isNameChar)) ++
  space ++ char '=' ++ space ++ group "hook" (words (formHooks.map (·.1))) ++ space ++
  typeArguments ++ space ++ char '('

/-- The state of a class, up to its object. -/
def classState : Pattern :=
  opt (lit "this.") ++ lit "state" ++ space ++
  opt (char ':' ++ runs fun c => !(c == '=' || c == '\n')) ++ char '=' ++ space ++
  ahead (char '\x7b')

/-! ## 2. Arguments -/

/-- The arguments between a position and a closing bracket. -/
def argumentsFrom (src : Source) (close : Nat) : Nat → Nat → List (List Char)
  | 0, _ => []
  | n + 1, i =>
    if i < close then
      let stop := min (skip src [','] i) close
      let arg := strip (src.slice i stop)
      let rest := argumentsFrom src close n (stop + 1)
      if arg.isEmpty then rest else arg :: rest
    else []

/-- The arguments of the call whose opening bracket is at the position. -/
def argumentsAt (src : Source) (open_ : Nat) : Except BracketFault (List (List Char)) := do
  let close ← partner src open_
  return argumentsFrom src close (src.size + 1) (open_ + 1)

/-- An argument as a text. -/
def argument (args : List (List Char)) (i : Nat) : Option String := args[i]?.map String.ofList

/-! ## 3. State variables -/

/-- A state variable where it stands. -/
abbrev Placed := Nat × StateVariable

/-- The variable of a state hook. -/
def stateVariable (src : Source) (m : Match) : Except BracketFault Placed := do
  let init := argument (← argumentsAt src (m.stop - 1)) 0
  return (m.start, {
    name := m.text "name", setter := m.text? "setter", initialValue := init
    type := initialType init, kind := .state })

/-- The variable of a reference hook. -/
def refVariable (src : Source) (m : Match) : Except BracketFault Placed := do
  let init := argument (← argumentsAt src (m.stop - 1)) 0
  return (m.start, { name := m.text "name", initialValue := init, type := "object", kind := .ref })

/-- The variable of a reducer hook. -/
def reducerVariable (src : Source) (m : Match) : Except BracketFault Placed := do
  let init := argument (← argumentsAt src (m.stop - 1)) 1
  return (m.start, {
    name := m.text "name", setter := m.text? "setter", initialValue := init
    type := if init.isSome then initialType init else "object", kind := .reducer })

/-- The variable of a form library's hook. -/
def formVariable (m : Match) : Placed :=
  let target := m.text "target"
  (m.start, {
    name := if startsWith target.toList ['\x7b'] then m.text "hook" else target
    type := "object", kind := .formLibrary })

/-- The variables of a class's first state object. -/
def classVariables (src : Source) : Except BracketFault (List Placed) :=
  match classState.search src 0 with
  | none => .ok []
  | some m => do
    let close ← partner src m.stop
    return (entries (src.slice m.stop (close + 1))).map fun (key, value) =>
      (m.start, {
        name := key, setter := some "setState", initialValue := value
        type := initialType value, kind := .state })

/-- The state variables of a component and the form library that it uses. -/
def stateOf (src : Source) : Except BracketFault (List StateVariable × Option String) := do
  let states ← (stateHook.findAll src).mapM (stateVariable src)
  let refs ← (refHook.findAll src).mapM (refVariable src)
  let reducers ← (reducerHook.findAll src).mapM (reducerVariable src)
  let hooks := formHook.findAll src
  let fields ← classVariables src
  let library := hooks.head?.bind fun m => formHooks.lookup (m.text "hook")
  return (inOrder (states ++ refs ++ reducers ++ hooks.map formVariable ++ fields), library)

end Affordance.Script
