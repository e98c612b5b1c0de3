import Affordance.Surface.Handling

/-!
# Assembling components

  * `bindValues`: elements are bound to the state variables that hold their values.
  * `classify`: what a component as a whole is for.
  * `assemble`: a component from what was collected, its functions and its state.
-/

namespace Affordance.Assembly

open Affordance.Text
open Affordance.Text.Pattern
open Affordance.Script

/-! ## 1. Values -/

/-- A field of a state variable. -/
def dottedField : Pattern :=
  group "object" identifier ++ char '.' ++ opt (lit "values.") ++
  group "field" identifier ++ atEnd

/-- The state variable of a name; a later one hides an earlier one. -/
def stateNamed (states : List StateVariable) (name : String) : Option StateVariable :=
  states.reverse.find? (·.name = name)

/-- A text without a beginning, if it begins so. -/
def dropBeginning (beginning s : List Char) : List Char :=
  if startsWith s beginning then s.drop beginning.length else s

/-- The path of a value expression, without the component and the state object. -/
def valuePath (states : List StateVariable) (expr : String) : List Char :=
  let s := dropBeginning "this.".toList (strip expr.toList)
  let inState := dropBeginning "state.".toList s
  if (stateNamed states (String.ofList inState)).isSome then inState else s

/-- The state variable or field that a value expression reads. -/
def bindingOf (states : List StateVariable) (expr : String) : Option StateBinding :=
  let s := valuePath states expr
  match stateNamed states (String.ofList s) with
  | some v => some ⟨v.name, v.setter, none⟩
  | none =>
    match dottedField.matchStart s with
    | some m =>
      (stateNamed states (m.text "object")).map fun v =>
        ⟨m.text "field", v.setter, some (String.ofList s)⟩
    | none => none

/-- An element bound to what holds its value. -/
def bindValue (states : List StateVariable) (elements : List Element) (v : Nat × String) :
    List Element :=
  match bindingOf states v.2 with
  | some b => elements.modify v.1 fun e => { e with stateBinding := some b }
  | none => elements

/-- Elements bound to what holds their values. -/
def bindValues (states : List StateVariable) (values : List (Nat × String))
    (elements : List Element) : List Element :=
  values.foldl (bindValue states) elements

/-! ## 2. Components -/

/-- The element takes a value. -/
def takesValue (e : Element) : Bool := e.tag = .input || e.tag = .textarea || e.tag = .select

/-- What a component as a whole is for. -/
def classify (elements : List Element) (handlers : List Handler) : ComponentKind :=
  let hasForm := elements.any (·.tag = .form)
  let hasInputs := elements.any takesValue
  let hasButtons := elements.any (·.tag = .button)
  let hasSubmit := handlers.any (·.event = .submit)
  if (hasForm || hasSubmit) && hasInputs then .form
  else if hasButtons && !hasInputs then .action
  else if hasInputs || hasButtons then .mixed
  else .display

/-- A component from what was collected: values are bound first, then events. -/
def assemble (name : String) (c : Collected) (find : Handling.Finder)
    (states : List StateVariable) (props : List ComponentProp) (formLibrary : Option String)
    (extra : List Binding) : Except BracketFault Component := do
  let elements := bindValues states c.valueBindings c.elements
  let s ← Handling.build find (c.bindings ++ extra) { elements }
  return {
    name, kind := classify s.elements s.handlers, elements := s.elements
    handlers := s.handlers, states, props, formLibrary }

end Affordance.Assembly
